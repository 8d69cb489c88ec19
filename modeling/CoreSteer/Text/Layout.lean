/-!
# Columns and parts of text

Text set flush in a column, and the search for one text at the start of or inside another.
-/
namespace CoreSteer.Text

/-- A text with blanks before it, so that it has at least `width` characters. -/
def flushRight (width : Nat) (s : String) : String :=
  String.ofList (List.replicate (width - s.length) ' ') ++ s

/-- A text with blanks after it, so that it has at least `width` characters. -/
def flushLeft (width : Nat) (s : String) : String :=
  s ++ String.ofList (List.replicate (width - s.length) ' ')

/-- Whether `part` occurs in `whole` as a run of neighbours. -/
def occursIn {α : Type} [BEq α] (part : List α) : List α → Bool
  | [] => part.isEmpty
  | a :: rest => part.isPrefixOf (a :: rest) || occursIn part rest

/-- Whether a text contains another. -/
def contains (whole part : String) : Bool := occursIn part.toList whole.toList

/-- Whether a text begins with another. -/
def beginsWith (whole start : String) : Bool := start.toList.isPrefixOf whole.toList

theorem occursIn_iff {α : Type} [BEq α] [LawfulBEq α] {part whole : List α} :
    occursIn part whole = true ↔ part <:+: whole := by
  induction whole with
  | nil => simp [occursIn]
  | cons a rest ih =>
    rw [occursIn, Bool.or_eq_true, ih, List.infix_cons_iff, List.isPrefixOf_iff_prefix]

/-- A list cut into rows: each row has a first element and at most `more` others. -/
def rows {α : Type} (more : Nat) : List α → List (List α)
  | [] => []
  | a :: rest => (a :: rest.take more) :: rows more (rest.drop more)
termination_by as => as.length
decreasing_by simp only [List.length_drop, List.length_cons]; omega

theorem flatten_rows {α : Type} (more : Nat) (as : List α) : (rows more as).flatten = as := by
  fun_induction rows more as with
  | case1 => rfl
  | case2 a rest ih => simp [ih]

end CoreSteer.Text
