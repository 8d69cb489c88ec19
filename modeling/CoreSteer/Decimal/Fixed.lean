import CoreSteer.Decimal.Digits
/-!
# Decimals with a fixed number of places

A binary64 number is a whole number times a power of two.  Written with a fixed number of decimal
places it is rounded to the nearest such decimal, and to the even neighbour where two are equally
near.  The sign of a negative zero is written; there are words for the infinities and for what is
not a number.
-/
namespace CoreSteer.Decimal

/-- The whole number nearest to `num / den`, the even one of two that are equally near. -/
def roundHalfEven (num den : Nat) : Nat :=
  let q := num / den
  let r := num % den
  if 2 * r < den then q else if den < 2 * r then q + 1 else q + q % 2

/-- A finite number as a sign and `mantissa * 2 ^ exponent`. -/
structure Binary where
  /-- Whether there is a minus sign. -/
  negative : Bool
  /-- The whole number. -/
  mantissa : Nat
  /-- The exponent of two. -/
  exponent : Int

/-- What the bits of a binary64 number say. -/
inductive Reading where
  /-- A finite number. -/
  | finite (b : Binary)
  /-- An infinity. -/
  | infinite (negative : Bool)
  /-- Not a number. -/
  | nan

/-- The leading bit of a mantissa, which is not among the fifty-two bits of its fraction. -/
def hiddenBit : Nat := 1 <<< 52

/-- Read the bits of a binary64 number: one bit of sign, eleven of exponent, fifty-two of
fraction. -/
def Reading.ofBits (bits : UInt64) : Reading :=
  let n := bits.toNat
  let negative := n >>> 63 % 2 == 1
  let exponent : Nat := n >>> 52 % 2048
  let fraction := n % hiddenBit
  if exponent = 2047 then
    if fraction = 0 then .infinite negative else .nan
  else if exponent = 0 then .finite ⟨negative, fraction, -1074⟩
  else .finite ⟨negative, hiddenBit + fraction, (exponent : Int) - 1075⟩

/-- The size of a finite number in units of the last of `places` decimal places, rounded. -/
def Binary.units (b : Binary) (places : Nat) : Nat :=
  if 0 ≤ b.exponent then b.mantissa <<< b.exponent.toNat * tenTo places
  else roundHalfEven (b.mantissa * tenTo places) (1 <<< (-b.exponent).toNat)

/-- A whole number of units, written with a point before the last `places` digits. -/
def pointed (places units : Nat) : String :=
  let whole := toString (units / tenTo places)
  if places = 0 then whole
  else
    let fraction := toString (units % tenTo places)
    whole ++ "." ++ String.ofList (List.replicate (places - fraction.length) '0') ++ fraction

/-- A binary64 number with `places` decimal places. -/
def fixed (places : Nat) (x : Float) : String :=
  match Reading.ofBits x.toBits with
  | .finite b => (if b.negative then "-" else "") ++ pointed places (b.units places)
  | .infinite negative => if negative then "-inf" else "inf"
  | .nan => "NaN"

end CoreSteer.Decimal
