import CoreSteer.Decimal.Digits
/-!
# Reading decimals

A decimal is an optional sign and then either digits with at most one point among them and an
optional exponent, or a word for an infinity or for what is not a number, whatever the case of its
letters.  It is read as the nearest binary64 number.
-/
namespace CoreSteer.Decimal

/-- The sign of a text, and what comes after it. -/
def signed : List Char → Bool × List Char
  | '-' :: rest => (true, rest)
  | '+' :: rest => (false, rest)
  | cs => (false, cs)

/-- What comes after a leading point, if there is one. -/
def afterPoint : List Char → List Char
  | '.' :: rest => rest
  | cs => cs

/-- The digits before and after the point, and what comes after them. -/
def places (cs : List Char) : List Char × List Char × List Char :=
  let whole := cs.takeWhile Char.isDigit
  let rest := cs.dropWhile Char.isDigit
  let after := afterPoint rest
  if after.length < rest.length then
    (whole, after.takeWhile Char.isDigit, after.dropWhile Char.isDigit)
  else (whole, [], rest)

/-- The exponent that is all that is left; nothing is left for exponent zero. -/
def exponent? : List Char → Option Int
  | [] => some 0
  | e :: rest =>
    if e = 'e' ∨ e = 'E' then
      let (negative, digits) := signed rest
      (readDigits? digits).map fun n => if negative then -(n : Int) else n
    else none

/-- Beyond this power of ten every binary64 number is infinite, and below its negative every one
is zero. -/
def farExponent : Nat := 400

/-- The binary64 number nearest to `mantissa * 10 ^ exponent`. -/
def scaled (mantissa : Nat) (exponent : Int) : Float :=
  if mantissa = 0 then 0
  else if (farExponent : Int) < exponent then 1 / 0
  else if exponent + (Nat.toDigits 10 mantissa).length < -(farExponent : Int) then 0
  else if 0 ≤ exponent then Float.ofScientific (mantissa * tenTo exponent.toNat) false 0
  else Float.ofScientific mantissa true (-exponent).toNat

/-- The decimal without its sign. -/
def readUnsigned? (cs : List Char) : Option Float :=
  let word := String.ofList (cs.map Char.toLower)
  if word = "inf" ∨ word = "infinity" then some (1 / 0)
  else if word = "nan" then some (0 / 0)
  else
    let (whole, fraction, rest) := places cs
    if whole.isEmpty && fraction.isEmpty then none
    else
      (exponent? rest).map fun e => scaled (digitsValue (whole ++ fraction)) (e - fraction.length)

/-- The decimal that is a whole text. -/
def read? (s : String) : Option Float :=
  let (negative, cs) := signed s.toList
  (readUnsigned? cs).map fun x => if negative then -x else x

end CoreSteer.Decimal
