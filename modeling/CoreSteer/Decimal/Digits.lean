/-!
# Whole numbers in decimal digits
-/
namespace CoreSteer.Decimal

/-- Ten to the power of `n`. -/
def tenTo (n : Nat) : Nat := Nat.pow 10 n

/-- The value of a run of decimal digits. -/
def digitsValue (cs : List Char) : Nat :=
  cs.foldl (fun n c => n * 10 + (c.toNat - '0'.toNat)) 0

/-- The number that is spelt with decimal digits alone. -/
def readDigits? (cs : List Char) : Option Nat :=
  if cs.isEmpty || !cs.all Char.isDigit then none else some (digitsValue cs)

/-- The number that is spelt with decimal digits, perhaps after a plus sign. -/
def readNat? (s : String) : Option Nat :=
  match s.toList with
  | '+' :: rest => readDigits? rest
  | cs => readDigits? cs

end CoreSteer.Decimal
