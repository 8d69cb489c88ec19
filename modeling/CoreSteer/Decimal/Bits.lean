/-!
# Numbers by their bits

A binary64 number is spelt without loss as `0x` and the sixteen digits of its bits in base sixteen.
-/
namespace CoreSteer.Decimal

/-- The digits of base sixteen. -/
def hexDigits : List Char := "0123456789abcdef".toList

/-- The bits of a number as text. -/
def bitsText (x : Float) : String :=
  let digits := Nat.toDigits 16 x.toBits.toNat
  "0x" ++ String.ofList (List.replicate (16 - digits.length) '0' ++ digits)

/-- The value of sixteen digits of base sixteen. -/
def readHex16? (cs : List Char) : Option Nat :=
  if cs.length = 16 then cs.foldlM (fun n c => (hexDigits.idxOf? c).map (n * 16 + ·)) 0 else none

/-- The number whose bits a text gives. -/
def ofBitsText? (s : String) : Option Float :=
  match s.toList with
  | '0' :: 'x' :: cs => (readHex16? cs).map fun n => .ofBits n.toUInt64
  | _ => none

end CoreSteer.Decimal
