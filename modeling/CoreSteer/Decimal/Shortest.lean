import CoreSteer.Decimal.Fixed
/-!
# The shortest decimal of a number

Of all decimals that are nearer to a binary64 number than to any other one, the one with the fewest
digits; of several such decimals the nearest.  The decimals half-way to a neighbour count where the
number is even.

A shortest decimal that is read back by scaling, with one rounding for its digits and one for the
power of ten, may miss the number by the last bit.
-/
namespace CoreSteer.Decimal

/-- The decimal `digits * 10 ^ exponent`. -/
structure Scientific where
  /-- The digits. -/
  digits : Nat
  /-- The power of ten. -/
  exponent : Int
deriving DecidableEq, Repr, Inhabited

/-- A positive number `4 * mantissa` in units of `2 ^ (exponent - 2)`, with the ends of the interval
of reals that are nearest to it. -/
structure Rounding where
  /-- The lower end. -/
  lower : Nat
  /-- The number. -/
  middle : Nat
  /-- The upper end. -/
  upper : Nat
  /-- Whether the ends belong to the interval. -/
  closed : Bool
  /-- The power of two of a unit. -/
  unit : Int

namespace Rounding

/-- The interval of a number; below a power of two the neighbour is nearer. -/
def ofBinary (b : Binary) : Rounding where
  lower := 4 * b.mantissa - if b.mantissa = hiddenBit ∧ -1074 < b.exponent then 1 else 2
  middle := 4 * b.mantissa
  upper := 4 * b.mantissa + 2
  closed := b.mantissa % 2 == 0
  unit := b.exponent - 2

/-- A decimal on a common scale with the units. -/
def ofDecimal (r : Rounding) (d : Scientific) : Nat :=
  (d.digits * tenTo d.exponent.toNat) <<< (-r.unit).toNat

/-- Units on a common scale with the decimals of an exponent. -/
def ofUnits (r : Rounding) (exponent : Int) (n : Nat) : Nat :=
  n <<< r.unit.toNat * tenTo (-exponent).toNat

/-- Whether a decimal lies in the interval. -/
def holds (r : Rounding) (d : Scientific) : Bool :=
  let x := r.ofDecimal d
  let lower := r.ofUnits d.exponent r.lower
  let upper := r.ofUnits d.exponent r.upper
  if r.closed then decide (lower ≤ x) && decide (x ≤ upper)
  else decide (lower < x) && decide (x < upper)

/-- The neighbours of the number among the decimals of an exponent, the one below first. -/
def neighbours (r : Rounding) (exponent : Int) : Scientific × Scientific :=
  let step := r.ofDecimal ⟨1, exponent⟩
  let below := r.ofUnits exponent r.middle / step
  (⟨below, exponent⟩, ⟨below + 1, exponent⟩)

/-- The nearer of the two neighbours that lie in the interval, if any does. -/
def at? (r : Rounding) (exponent : Int) : Option Scientific :=
  let (below, above) := r.neighbours exponent
  let middle := r.ofUnits exponent r.middle
  match r.holds below, r.holds above with
  | true, true =>
    if middle - r.ofDecimal below ≤ r.ofDecimal above - middle then some below else some above
  | true, false => some below
  | false, true => some above
  | false, false => none

/-- The first decimal found for the exponents from `exponent` downwards. -/
def search (r : Rounding) : (tries : Nat) → (exponent : Int) → Option Scientific
  | 0, _ => none
  | tries + 1, exponent =>
    match r.at? exponent with
    | some d => some d
    | none => r.search tries (exponent - 1)

end Rounding

/-- The shortest decimal of a positive number; none for zero. -/
def Binary.shortest? (b : Binary) : Option Scientific :=
  if b.mantissa = 0 then none else (Rounding.ofBinary b).search 700 309

/-- A power of ten as a binary64 number. -/
def powerOfTen (n : Nat) : Float := Float.ofScientific 1 false n

/-- The highest power of ten that is a binary64 number. -/
def highestPower : Nat := 308

/-- Divide by a power of ten, in two steps where it is too high for one. -/
def divideByPower (x : Float) (n : Nat) : Float :=
  if n ≤ highestPower then x / powerOfTen n
  else x / powerOfTen highestPower / powerOfTen (n - highestPower)

/-- A decimal read by scaling. -/
def Scientific.scaled (d : Scientific) : Float :=
  let x := d.digits.toUInt64.toFloat
  if 0 ≤ d.exponent then x * powerOfTen d.exponent.toNat
  else divideByPower x (-d.exponent).toNat

/-- The longest whole number that is written out, in digits. -/
def longestWhole : Nat := 16

/-- A decimal as its digits stand in text: a whole number that is written out has one zero after
its point. -/
def Scientific.asWritten (d : Scientific) : Scientific :=
  if 0 ≤ d.exponent ∧ (Nat.toDigits 10 d.digits).length + d.exponent.toNat ≤ longestWhole then
    ⟨d.digits * tenTo (d.exponent.toNat + 1), -1⟩
  else d

/-- A number that was written as its shortest decimal and read back by scaling. -/
def reread (x : Float) : Float :=
  match Reading.ofBits x.toBits with
  | .finite b =>
    match b.shortest? with
    | some d => if b.negative then -d.asWritten.scaled else d.asWritten.scaled
    | none => x
  | _ => x

end CoreSteer.Decimal
