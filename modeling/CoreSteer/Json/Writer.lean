import CoreSteer.Json.Basic
/-!
# Writing JSON text

Values without blanks between their parts.  In strings a quote, a backslash and the control
characters are escaped; all else stands as it is.
-/
namespace CoreSteer.Json

/-- A control character as four digits in base sixteen. -/
def controlEscape (c : Char) : String :=
  let digits := Nat.toDigits 16 c.toNat
  "\\u" ++ String.ofList (List.replicate (4 - digits.length) '0' ++ digits)

/-- A character inside a string. -/
def escapeChar (c : Char) : String :=
  match c with
  | '"' => "\\\""
  | '\\' => "\\\\"
  | '\n' => "\\n"
  | '\r' => "\\r"
  | '\t' => "\\t"
  | c => if c < ' ' then controlEscape c else c.toString

/-- A string with its quotes; one that is no text is written as the empty string. -/
def renderString (s : Option String) : String :=
  "\"" ++ String.join ((s.getD "").toList.map escapeChar) ++ "\""

mutual

/-- `out` with the text of a value after it. -/
def write (out : String) : Json → String
  | null => out ++ "null"
  | bool b => out ++ if b then "true" else "false"
  | number literal => out ++ literal
  | string s => out ++ renderString s
  | array [] => out ++ "[]"
  | array (item :: rest) => writeItems (write (out ++ "[") item) rest
  | object [] => out ++ "\x7b\x7d"
  | object (field :: rest) =>
    writeFields (write (out ++ "\x7b" ++ renderString field.1 ++ ":") field.2) rest

/-- `out` with the items of an array after the first, and its end. -/
def writeItems (out : String) : List Json → String
  | [] => out ++ "]"
  | item :: rest => writeItems (write (out ++ ",") item) rest

/-- `out` with the fields of an object after the first, and its end. -/
def writeFields (out : String) : List (Option String × Json) → String
  | [] => out ++ "\x7d"
  | field :: rest =>
    writeFields (write (out ++ "," ++ renderString field.1 ++ ":") field.2) rest

end

/-- The text of a value. -/
def render (j : Json) : String := write "" j

end CoreSteer.Json
