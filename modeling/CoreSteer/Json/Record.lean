import CoreSteer.Json.Basic
/-!
# Records in JSON

A record with declared fields is written as an object or as an array.  In an object, a declared
field may occur once, and all other fields are ignored.  In an array the fields stand in the order
of their declaration, and the last ones may be missing.  A field that is not there takes its
default, if it has one.
-/
namespace CoreSteer.Json

/-- The declared fields of a record that were found. -/
structure Record where
  /-- The value of each declared field that is there. -/
  found : List (String × Json)
  /-- Whether the record was written as an array. -/
  positional : Bool

/-- The fields of an object that are declared, if each occurs once and all field names are
text. -/
def declared? (names : List String) : List (Option String × Json) → Option (List (String × Json))
  | [] => some []
  | (none, _) :: _ => none
  | (some name, j) :: rest =>
    match declared? names rest with
    | none => none
    | some found =>
      if names.contains name then
        if found.any (·.1 == name) then none else some ((name, j) :: found)
      else some found

/-- The declared fields of a value that is an object or an array. -/
def record? (names : List String) : Json → Option Record
  | object fields => (declared? names fields).map (⟨·, false⟩)
  | array items => if items.length ≤ names.length then some ⟨names.zip items, true⟩ else none
  | _ => none

/-- The value of a field: what `f` reads where it is there, and the default where it is not. -/
def Record.read? {α : Type} (r : Record) (name : String) (f : Json → Option α)
    (default : Option α) : Option α :=
  match r.found.lookup name with
  | some j => f j
  | none => default

/-- The value of a field that may be missing from an object, and has to be there in an array. -/
def Record.readOptional? {α : Type} (r : Record) (name : String) (f : Json → Option α) :
    Option (Option α) :=
  r.read? name (orNull f) (if r.positional then none else some none)

end CoreSteer.Json
