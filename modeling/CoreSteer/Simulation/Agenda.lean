import CoreSteer.Heap
/-!
# The agenda of a simulation

What is going to happen, and when.  What is due first comes first, and of things that are due at
the same time the one that was put on the agenda first.
-/
namespace CoreSteer

/-- What may happen in a simulation. -/
inductive Occurrence where
  /-- A thread wakes up. -/
  | wake (pid : Nat)
  /-- The run that a core began when its generation was `generation` ends. -/
  | stop (cpu generation : Nat)
  /-- All cores tick. -/
  | tick
deriving DecidableEq, Repr

/-- Something that is going to happen. -/
structure Appointment where
  /-- When it is due. -/
  due : Nat
  /-- How many appointments were made before it. -/
  serial : Nat
  /-- What is going to happen. -/
  what : Occurrence
deriving DecidableEq, Repr

namespace Appointment

/-- What is due earlier goes first, and the earlier appointment among those due at one time. -/
instance : LE Appointment :=
  ⟨fun a b => a.due < b.due ∨ (a.due = b.due ∧ a.serial ≤ b.serial)⟩

theorem le_def {a b : Appointment} :
    a ≤ b ↔ a.due < b.due ∨ (a.due = b.due ∧ a.serial ≤ b.serial) := Iff.rfl

instance : DecidableLE Appointment := fun a b =>
  inferInstanceAs (Decidable (a.due < b.due ∨ (a.due = b.due ∧ a.serial ≤ b.serial)))

instance : Std.IsLinearPreorder Appointment where
  le_refl a := le_def.2 (by omega)
  le_trans a b c h₁ h₂ := by
    rw [le_def] at h₁ h₂ ⊢
    omega
  le_total a b := by
    rw [le_def, le_def]
    omega

end Appointment

/-- All appointments. -/
structure Agenda where
  /-- The appointments that are still to be kept. -/
  waiting : Heap Appointment := .empty
  /-- How many appointments were ever made. -/
  made : Nat := 0

namespace Agenda

instance : Inhabited Agenda := ⟨{}⟩

/-- Make an appointment. -/
def add (a : Agenda) (due : Nat) (what : Occurrence) : Agenda :=
  ⟨a.waiting.insert ⟨due, a.made, what⟩, a.made + 1⟩

/-- The first appointment, if it is due by `limit`, and the agenda without it. -/
def take? (a : Agenda) (limit : Nat) : Option (Appointment × Agenda) :=
  match a.waiting.pop? with
  | some (x, rest) => if x.due ≤ limit then some (x, { a with waiting := rest }) else none
  | none => none

/-- The appointments that are still to be kept, in no particular order. -/
def toList (a : Agenda) : List Appointment := a.waiting.toList

theorem toList_add (a : Agenda) (due : Nat) (what : Occurrence) :
    (a.add due what).toList.Perm (⟨due, a.made, what⟩ :: a.toList) :=
  Heap.toList_insert _ _

theorem due_le_of_take? {a b : Agenda} {limit : Nat} {x : Appointment}
    (h : a.take? limit = some (x, b)) : x.due ≤ limit := by
  simp only [take?] at h
  split at h
  · split at h
    · simp only [Option.some.injEq, Prod.mk.injEq] at h
      obtain ⟨rfl, -⟩ := h
      assumption
    · cases h
  · cases h

theorem toList_of_take? {a b : Agenda} {limit : Nat} {x : Appointment}
    (h : a.take? limit = some (x, b)) : a.toList.Perm (x :: b.toList) := by
  simp only [take?] at h
  split at h
  · next y rest hp =>
    split at h
    · simp only [Option.some.injEq, Prod.mk.injEq] at h
      obtain ⟨rfl, rfl⟩ := h
      exact Heap.toList_of_pop? hp
    · cases h
  · cases h

/-- The first appointment is due before all others, or at the same time. -/
theorem first_of_take? {a b : Agenda} {limit : Nat} {x : Appointment}
    (h : a.take? limit = some (x, b)) : ∀ y ∈ a.toList, x.due ≤ y.due := by
  intro y hy
  simp only [take?] at h
  split at h
  · next z rest hp =>
    split at h
    · simp only [Option.some.injEq, Prod.mk.injEq] at h
      obtain ⟨rfl, -⟩ := h
      have hle := Appointment.le_def.1 (Heap.le_of_pop? hp y hy)
      omega
    · cases h
  · cases h

/-- If no appointment is taken, all are due later. -/
theorem lt_due_of_take?_eq_none {a : Agenda} {limit : Nat} (h : a.take? limit = none) :
    ∀ y ∈ a.toList, limit < y.due := by
  intro y hy
  simp only [take?] at h
  split at h
  · next x rest hp =>
    split at h
    · cases h
    · next hlater =>
      have hle := Appointment.le_def.1 (Heap.le_of_pop? hp y hy)
      omega
  · next hp =>
    rw [toList, Heap.pop?_eq_none_iff.1 hp] at hy
    cases hy

end Agenda

end CoreSteer
