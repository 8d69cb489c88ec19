/-!
# A number for each member of a finite type

An `Enumerated` type numbers its members.  A `Ledger` over such a type holds one natural number
for each member; writing one member's number leaves all others as they are.
-/
namespace CoreSteer

/-- A type whose members are numbered from `0` to `card - 1`. -/
class Enumerated (κ : Type) where
  /-- How many members there are. -/
  card : Nat
  /-- The number of a member. -/
  index : κ → Fin card
  /-- The member with a given number. -/
  ofIndex : Fin card → κ
  /-- Numbering loses nothing. -/
  ofIndex_index : ∀ k, ofIndex (index k) = k

namespace Enumerated

variable {κ : Type} [Enumerated κ]

theorem index_inj {j k : κ} : index j = index k ↔ j = k := by
  constructor
  · intro h
    rw [← ofIndex_index j, ← ofIndex_index k, h]
  · rintro rfl
    rfl

/-- All members, in the order of their numbers. -/
def all (κ : Type) [Enumerated κ] : List κ :=
  List.ofFn (ofIndex : Fin (card κ) → κ)

theorem mem_all (k : κ) : k ∈ all κ := by
  simp only [all, List.mem_ofFn]
  exact ⟨index k, ofIndex_index k⟩

end Enumerated

/-- One natural number for each member of `κ`. -/
structure Ledger (κ : Type) [Enumerated κ] where
  /-- The numbers, by the members' indices. -/
  cells : Vector Nat (Enumerated.card κ)

namespace Ledger

variable {κ : Type} [Enumerated κ]

/-- The ledger that `f` describes. -/
def ofFn (f : κ → Nat) : Ledger κ := ⟨Vector.ofFn fun i => f (Enumerated.ofIndex i)⟩

/-- Zero everywhere. -/
def zero : Ledger κ := ofFn fun _ => 0

instance : Inhabited (Ledger κ) := ⟨zero⟩

/-- The number of `k`. -/
def get (l : Ledger κ) (k : κ) : Nat := l.cells[Enumerated.index k]

/-- Write the number of `k`. -/
def set (l : Ledger κ) (k : κ) (n : Nat) : Ledger κ :=
  ⟨l.cells.set (Enumerated.index k) n (Enumerated.index k).isLt⟩

@[simp] theorem get_ofFn (f : κ → Nat) (k : κ) : (ofFn f).get k = f k := by
  simp [get, ofFn, Enumerated.ofIndex_index]

@[simp] theorem get_zero (k : κ) : (zero : Ledger κ).get k = 0 := by
  simp [zero]

@[simp] theorem get_set_self (l : Ledger κ) (k : κ) (n : Nat) : (l.set k n).get k = n := by
  simp [get, set]

theorem get_set_of_ne (l : Ledger κ) {j k : κ} (n : Nat) (h : j ≠ k) :
    (l.set k n).get j = l.get j := by
  have hne : (Enumerated.index k : Nat) ≠ Enumerated.index j := fun e =>
    h (Enumerated.index_inj.1 (Fin.ext e)).symm
  simp [get, set, hne]

end Ledger

end CoreSteer
