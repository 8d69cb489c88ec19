import CoreSteer.Decimal.Digits
/-!
# JSON values

Values as they stand in a text: numbers keep their spelling, objects keep the order and the
repetitions of their fields.  A string that names half of a surrogate pair is no text, and is
held as `none`.
-/
namespace CoreSteer

/-- A JSON value. -/
inductive Json where
  /-- The value `null`. -/
  | null
  /-- A truth value. -/
  | bool (b : Bool)
  /-- A number, as it is spelt. -/
  | number (literal : String)
  /-- A string; `none` where it names half of a surrogate pair. -/
  | string (text : Option String)
  /-- An array. -/
  | array (items : List Json)
  /-- An object: its fields in order. -/
  | object (fields : List (Option String × Json))

namespace Json

instance : Inhabited Json := ⟨null⟩

/-- A string value. -/
def str (s : String) : Json := string (some s)

/-- A whole number. -/
def nat (n : Nat) : Json := number (toString n)

/-- An object whose field names are all text. -/
def obj (fields : List (String × Json)) : Json := object (fields.map fun f => (some f.1, f.2))

/-- `null` for nothing. -/
def ofOption {α : Type} (f : α → Json) : Option α → Json
  | none => null
  | some a => f a

/-- The number that is spelt with decimal digits alone. -/
def nat? : Json → Option Nat
  | number literal => Decimal.readDigits? literal.toList
  | _ => none

/-- A whole number that a 64-bit word can hold. -/
def word64? (j : Json) : Option Nat := j.nat?.filter (· < UInt64.size)

/-- A whole number that a 32-bit word can hold. -/
def word32? (j : Json) : Option Nat := j.nat?.filter (· < UInt32.size)

/-- A truth value. -/
def bool? : Json → Option Bool
  | bool b => some b
  | _ => none

/-- A string that is text. -/
def text? : Json → Option String
  | string s => s
  | _ => none

/-- The items of an array. -/
def array? : Json → Option (List Json)
  | array items => some items
  | _ => none

/-- Nothing for `null`, otherwise what `f` reads. -/
def orNull {α : Type} (f : Json → Option α) : Json → Option (Option α)
  | null => some none
  | j => (f j).map some

/-- The first field of a given name. -/
def field? (name : String) : Json → Option Json
  | object fields => (fields.find? fun f => f.1 == some name).map (·.2)
  | _ => none

/-- One of several names, written as a string or as an object whose only field has that name and
holds `null`. -/
def choice? {α : Type} (names : List (String × α)) : Json → Option α
  | string (some s) => names.lookup s
  | object [(some s, null)] => names.lookup s
  | _ => none

end Json

end CoreSteer
