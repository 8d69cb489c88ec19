import CoreSteer.Json.Basic
/-!
# Classes of work
-/
namespace CoreSteer

/-- What kind of work a task does. -/
inductive WorkloadClass where
  /-- Nothing is known. -/
  | unknown
  /-- A game, or a part of one. -/
  | gaming
  /-- Work that somebody waits for. -/
  | interactive
  /-- Work that nobody waits for. -/
  | batch
  /-- Training or running of models. -/
  | ai
  /-- A virtual machine for development. -/
  | vmDev
  /-- A virtual machine that runs a game. -/
  | vmGaming
  /-- Some container. -/
  | container
deriving DecidableEq, Repr, Inhabited

namespace WorkloadClass

/-- All classes, in the order of their numbers. -/
def all : List WorkloadClass :=
  [unknown, gaming, interactive, batch, ai, vmDev, vmGaming, container]

/-- The name of a class. -/
def name : WorkloadClass → String
  | unknown => "unknown"
  | gaming => "gaming"
  | interactive => "interactive"
  | batch => "batch"
  | ai => "ai"
  | vmDev => "vm_dev"
  | vmGaming => "vm_gaming"
  | container => "container"

/-- The number of a class. -/
def raw : WorkloadClass → Nat
  | unknown => 0
  | gaming => 1
  | interactive => 2
  | batch => 3
  | ai => 4
  | vmDev => 5
  | vmGaming => 6
  | container => 7

/-- The class with a given number. -/
def ofRaw? (n : Nat) : Option WorkloadClass := all[n]?

/-- The class with a given name. -/
def ofName? (s : String) : Option WorkloadClass := (all.map fun c => (c.name, c)).lookup s

/-- A class by its name. -/
def ofJson? (j : Json) : Option WorkloadClass := j.choice? (all.map fun c => (c.name, c))

theorem mem_all (c : WorkloadClass) : c ∈ all := by
  cases c <;> decide

theorem ofRaw?_raw (c : WorkloadClass) : ofRaw? c.raw = some c := by
  cases c <;> rfl

theorem raw_of_ofRaw? {n : Nat} {c : WorkloadClass} (h : ofRaw? n = some c) : c.raw = n := by
  have hn : n < 8 := by
    obtain ⟨h, -⟩ := List.getElem?_eq_some_iff.1 h
    exact h
  have : n = 0 ∨ n = 1 ∨ n = 2 ∨ n = 3 ∨ n = 4 ∨ n = 5 ∨ n = 6 ∨ n = 7 := by omega
  rcases this with rfl | rfl | rfl | rfl | rfl | rfl | rfl | rfl <;> cases h <;> rfl

end WorkloadClass

end CoreSteer
