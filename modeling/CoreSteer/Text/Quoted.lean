import CoreSteer.Text.Unprinted
/-!
# Quoted text

Text that a message quotes stands between double quotes.  A quote and a backslash have a
backslash before them; tab, line feed, carriage return and NUL have short names; any other
character without a printed form of its own is written as its code point in hexadecimal.
-/
namespace CoreSteer.Text

/-- The digits of a number in base sixteen, small letters, without leading zeros. -/
def hexDigits (n : Nat) : String := String.ofList (Nat.toDigits 16 n)

/-- A character as it stands inside quoted text. -/
def quoteChar (c : Char) : String :=
  match c with
  | '\x00' => "\\0"
  | '\t' => "\\t"
  | '\n' => "\\n"
  | '\r' => "\\r"
  | '"' => "\\\""
  | '\\' => "\\\\"
  | c => if isUnprinted c then "\\u\x7b" ++ hexDigits c.toNat ++ "\x7d" else c.toString

/-- Text between double quotes. -/
def quote (s : String) : String := "\"" ++ String.join (s.toList.map quoteChar) ++ "\""

end CoreSteer.Text
