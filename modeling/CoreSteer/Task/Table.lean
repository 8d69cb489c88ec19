import CoreSteer.Task.Basic
/-!
# The table of tracked tasks

A hash table of fixed size with open addressing.  A task has a window of `probeWindow` neighbouring
slots, wrapping around at the end, which begins at a slot that its id determines.  It lives in one
slot of its window, with no vacant slot before it.  Removing a task leaves a mark in its slot,
which a later task may take over; so a search ends at a vacant slot, but goes on past a mark.  A
task whose window is full is not tracked.
-/
namespace CoreSteer

/-- How many slots a task may live in. -/
def probeWindow : Nat := 64

/-- The size of the largest table. -/
def maxTaskCapacity : Nat := 4194304

/-- A place for a task. -/
inductive Slot where
  /-- Never taken. -/
  | vacant
  /-- Taken once, and given back; the state that was written there stays behind. -/
  | removed (left : TaskState)
  /-- Taken by a task. -/
  | live (pid : Nat) (state : TaskState)
deriving Inhabited

/-- The state that stands in a slot, whether a task has the slot or not. -/
def Slot.state : Slot → TaskState
  | vacant => {}
  | removed left => left
  | live _ state => state

/-- The number of slots of a table for `n` tasks: `n` cut down to bounds, and rounded up to a power
of two. -/
def tableSize (n : Nat) : Nat :=
  Nat.pow 2 ((max probeWindow (min n maxTaskCapacity) - 1).log2 + 1)

theorem tableSize_pos (n : Nat) : 0 < tableSize n := Nat.two_pow_pos _

/-- Where the window of a task begins, before it is cut down to the size of the table: the upper
half of the id times a constant, in a 64-bit word. -/
def taskHash (pid : Nat) : Nat := ((pid.toUInt64 * 0x9E3779B97F4A7C15) >>> 32).toNat

/-- The table of tracked tasks. -/
structure TaskTable where
  /-- The slots. -/
  slots : Array Slot
  /-- How many of them are taken. -/
  count : Nat
  /-- There is a slot. -/
  size_pos : 0 < slots.size

namespace TaskTable

/-- The table for `n` tasks, without any. -/
def ofCapacity (n : Nat) : TaskTable where
  slots := Array.replicate (tableSize n) .vacant
  count := 0
  size_pos := by rw [Array.size_replicate]; exact tableSize_pos n

instance : Inhabited TaskTable := ⟨ofCapacity 0⟩

/-- The number of slots. -/
def capacity (t : TaskTable) : Nat := t.slots.size

/-- The slot `i` places after the beginning of the window of `pid`. -/
def position (t : TaskTable) (pid i : Nat) : Nat := (taskHash pid + i) % t.slots.size

theorem position_lt (t : TaskTable) (pid i : Nat) : t.position pid i < t.slots.size :=
  Nat.mod_lt _ t.size_pos

/-- What a search for a task finds. -/
inductive Found where
  /-- The task, its slot and its state. -/
  | live (slot : Nat) (state : TaskState)
  /-- The task is not there; the first slot of its window that it could take. -/
  | absent (free : Option Nat)

/-- Search the `n` slots of a window from place `i` on, where `free` is the first slot before them
that is not taken. -/
def seekFrom (t : TaskTable) (pid : Nat) : (n i : Nat) → (free : Option Nat) → Found
  | 0, _, free => .absent free
  | n + 1, i, free =>
    have := t.position_lt pid i
    match t.slots[t.position pid i] with
    | .vacant => .absent (free.or (some (t.position pid i)))
    | .removed _ => t.seekFrom pid n (i + 1) (free.or (some (t.position pid i)))
    | .live p s =>
      if p = pid then .live (t.position pid i) s else t.seekFrom pid n (i + 1) free

/-- Search for a task. -/
def seek (t : TaskTable) (pid : Nat) : Found := t.seekFrom pid probeWindow 0 none

/-- The state of a tracked task. -/
def get? (t : TaskTable) (pid : Nat) : Option TaskState :=
  match t.seek pid with
  | .live _ s => some s
  | .absent _ => none

/-- Write a slot. -/
def setSlot (t : TaskTable) (k : Nat) (s : Slot) (count : Nat) : TaskTable where
  slots := t.slots.setIfInBounds k s
  count := count
  size_pos := by rw [Array.size_setIfInBounds]; exact t.size_pos

/-- The state that stands in a slot. -/
def stateAt (t : TaskTable) (k : Nat) : TaskState := (t.slots[k]?.map (·.state)).getD {}

/-- Track a task, if it is not tracked yet and its window has room.  What was left in its slot by
another task is cleared. -/
def track (t : TaskTable) (pid : Nat) : TaskTable :=
  match t.seek pid with
  | .absent (some k) => t.setSlot k (.live pid (t.stateAt k).reset) (t.count + 1)
  | _ => t

/-- Write the state of a task; nothing happens if it is not tracked. -/
def put (t : TaskTable) (pid : Nat) (s : TaskState) : TaskTable :=
  match t.seek pid with
  | .live k _ => t.setSlot k (.live pid s) t.count
  | .absent _ => t

/-- Change the state of a task; nothing happens if it is not tracked. -/
def modify (t : TaskTable) (pid : Nat) (f : TaskState → TaskState) : TaskTable :=
  match t.get? pid with
  | some s => t.put pid (f s)
  | none => t

/-- Whether a task is tracked. -/
def contains (t : TaskTable) (pid : Nat) : Bool := (t.get? pid).isSome

/-- Forget a task. -/
def remove (t : TaskTable) (pid : Nat) : TaskTable :=
  match t.seek pid with
  | .live k s => t.setSlot k (.removed s) (t.count - 1)
  | .absent _ => t

end TaskTable

end CoreSteer
