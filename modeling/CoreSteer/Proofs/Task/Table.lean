import CoreSteer.Task.Table
import Mathlib.Data.List.Nodup
import Mathlib.Data.Nat.ModEq
/-!
# The table of tracked tasks is a finite map

A task that is tracked has one slot of its window, from the request that made it tracked to the one
that forgets it, and no other task has that slot.  What a search finds is therefore what the
requests say: the state last written in the slot of a task while it was tracked.  A task is refused
only when the slots of its window are all taken.

The invariant is `Tracked.Describes`.  Beside the slots of tasks it says that no slot before that of
a task, in its window, is vacant, which is why a search may stop at a vacant slot.
-/
namespace CoreSteer

/-! ## The size of a table -/

/-- A table has room for the tasks that it is for, within bounds. -/
lemma le_tableSize (n : Nat) : max probeWindow (min n maxTaskCapacity) ≤ tableSize n := by
  have h := Nat.lt_log2_self (n := max probeWindow (min n maxTaskCapacity) - 1)
  exact Nat.le_of_pred_lt h

lemma tableSize_le (n : Nat) : tableSize n ≤ maxTaskCapacity := by
  have hmax : maxTaskCapacity = 2 ^ 22 := by decide
  have hwindow : probeWindow = 64 := rfl
  have hpos : max probeWindow (min n maxTaskCapacity) - 1 ≠ 0 := by omega
  have hlog : (max probeWindow (min n maxTaskCapacity) - 1).log2 < 22 :=
    (Nat.log2_lt hpos).2 (by omega)
  rw [hmax]
  exact Nat.pow_le_pow_right (by decide) hlog

/-! ## Searching -/

namespace TaskTable

/-- The slots of the window of a task, in the order in which they are searched. -/
def window (t : TaskTable) (pid : Nat) : List Nat := (List.range probeWindow).map (t.position pid)

/-- The slot of a task that is tracked; its state is read and written there. -/
def slotOf? (t : TaskTable) (pid : Nat) : Option Nat :=
  match t.seek pid with
  | .live k _ => some k
  | .absent _ => none

variable {t : TaskTable} {pid n i k : Nat} {s : TaskState} {free : Option Nat}

/-- What a search finds is the task, in one of the slots searched. -/
lemma seekFrom_live (h : t.seekFrom pid n i free = .live k s) :
    ∃ j, i ≤ j ∧ j < i + n ∧ k = t.position pid j ∧ t.slots[k]? = some (.live pid s) := by
  fun_induction t.seekFrom pid n i free with
  | case1 => cases h
  | case2 => cases h
  | case3 n i free hlt left hslot ih =>
    obtain ⟨j, hij, hj, hk⟩ := ih h
    exact ⟨j, by omega, by omega, hk⟩
  | case4 n i free hlt s' hslot =>
    cases h
    exact ⟨i, Nat.le_refl i, by omega, rfl, hslot ▸ Array.getElem?_eq_getElem hlt⟩
  | case5 n i free hlt p s' hslot hp ih =>
    obtain ⟨j, hij, hj, hk⟩ := ih h
    exact ⟨j, by omega, by omega, hk⟩

/-- A search that does not find the task has met a vacant slot before it, if it is there at all. -/
lemma seekFrom_absent {found : Option Nat} (h : t.seekFrom pid n i free = .absent found)
    {j : Nat} (hij : i ≤ j) (hj : j < i + n)
    (hs : t.slots[t.position pid j]? = some (.live pid s)) :
    ∃ j', i ≤ j' ∧ j' < j ∧ t.slots[t.position pid j']? = some .vacant := by
  fun_induction t.seekFrom pid n i free with
  | case1 => omega
  | case2 n i free hlt hslot =>
    have hvacant : t.slots[t.position pid i]? = some .vacant :=
      hslot ▸ Array.getElem?_eq_getElem hlt
    rcases Nat.lt_or_eq_of_le hij with hij | rfl
    · exact ⟨i, Nat.le_refl i, hij, hvacant⟩
    · rw [hvacant] at hs
      cases hs
  | case3 n i free hlt left hslot ih =>
    have hremoved : t.slots[t.position pid i]? = some (.removed left) :=
      hslot ▸ Array.getElem?_eq_getElem hlt
    rcases Nat.lt_or_eq_of_le hij with hij | rfl
    · obtain ⟨j', hij', hj', hv⟩ := ih h hij (by omega)
      exact ⟨j', by omega, hj', hv⟩
    · rw [hremoved] at hs
      cases hs
  | case4 => cases h
  | case5 n i free hlt p s' hslot hp ih =>
    have hother : t.slots[t.position pid i]? = some (.live p s') :=
      hslot ▸ Array.getElem?_eq_getElem hlt
    rcases Nat.lt_or_eq_of_le hij with hij | rfl
    · obtain ⟨j', hij', hj', hv⟩ := ih h hij (by omega)
      exact ⟨j', by omega, hj', hv⟩
    · rw [hother] at hs
      cases hs
      exact absurd rfl hp

/-- The first slot that a task could take is kept to the end of a search. -/
lemma seekFrom_some {found : Option Nat} (h : t.seekFrom pid n i (some k) = .absent found) :
    found = some k := by
  induction n generalizing i with
  | zero =>
    cases h
    rfl
  | succ n ih =>
    unfold seekFrom at h
    dsimp only at h
    split at h
    · cases h
      rfl
    · exact ih h
    · split at h
      · cases h
      · exact ih h

/-- A search that finds neither the task nor a slot for it has met other tasks only. -/
lemma seekFrom_full (h : t.seekFrom pid n i none = .absent none) {j : Nat} (hij : i ≤ j)
    (hj : j < i + n) : ∃ p s, p ≠ pid ∧ t.slots[t.position pid j]? = some (.live p s) := by
  induction n generalizing i with
  | zero => omega
  | succ n ih =>
    have hlt := t.position_lt pid i
    unfold seekFrom at h
    dsimp only at h
    split at h
    · cases h
    · cases seekFrom_some h
    · next p s hslot =>
      split at h
      · cases h
      · next hp =>
        rcases Nat.lt_or_eq_of_le hij with hij | rfl
        · exact ih h hij (by omega)
        · exact ⟨p, s, hp, hslot ▸ Array.getElem?_eq_getElem hlt⟩

/-- The slot for a task that is not found has no task, and all slots searched before it have. -/
lemma seekFrom_free (h : t.seekFrom pid n i none = .absent (some k)) :
    ∃ j, i ≤ j ∧ j < i + n ∧ k = t.position pid j ∧ (∀ p s, t.slots[k]? ≠ some (.live p s)) ∧
      ∀ j', i ≤ j' → j' < j → ∃ p s, t.slots[t.position pid j']? = some (.live p s) := by
  induction n generalizing i with
  | zero => cases h
  | succ n ih =>
    have hlt := t.position_lt pid i
    -- the search stops at a slot without a task, and goes on past another task
    have hhere : ∀ x, t.slots[t.position pid i] = x → (∀ p s, x ≠ .live p s) →
        k = t.position pid i → ∃ j, i ≤ j ∧ j < i + (n + 1) ∧ k = t.position pid j ∧
          (∀ p s, t.slots[k]? ≠ some (.live p s)) ∧
          ∀ j', i ≤ j' → j' < j → ∃ p s, t.slots[t.position pid j']? = some (.live p s) := by
      rintro x hslot hx rfl
      refine ⟨i, Nat.le_refl i, by omega, rfl, fun p s hs => ?_, fun j' _ _ => by omega⟩
      rw [Array.getElem?_eq_getElem hlt, hslot] at hs
      exact hx p s (Option.some.inj hs)
    unfold seekFrom at h
    dsimp only at h
    split at h
    · next hslot =>
      cases h
      exact hhere _ hslot (fun p s hx => by cases hx) rfl
    · next hslot =>
      exact hhere _ hslot (fun p s hx => by cases hx) (Option.some.inj (seekFrom_some h))
    · next p s hslot =>
      split at h
      · cases h
      · obtain ⟨j, hij, hj, hk, hfree, hlive⟩ := ih h
        refine ⟨j, by omega, by omega, hk, hfree, fun j' hij' hj' => ?_⟩
        rcases Nat.lt_or_eq_of_le hij' with hij' | rfl
        · exact hlive j' hij' hj'
        · exact ⟨p, s, hslot ▸ Array.getElem?_eq_getElem hlt⟩

end TaskTable

/-! ## Searching by keys -/

/-- The number by which a slot for a task is found. -/
def taskKey (pid : Nat) : Nat := pid + 1

namespace Slot

/-- The number in a slot that was never taken. -/
def vacantKey : Nat := 0

/-- The number in a slot that was given back. -/
def removedKey : Nat := UInt64.size - 1

/-- The number in a slot. -/
def key : Slot → Nat
  | vacant => vacantKey
  | removed _ => removedKey
  | live pid _ => taskKey pid

lemma vacantKey_ne_taskKey (pid : Nat) : vacantKey ≠ taskKey pid := (Nat.succ_ne_zero pid).symm

lemma removedKey_ne_vacantKey : removedKey ≠ vacantKey := by decide

/-- Ids fit in half a word, so that the largest word is not the number of any task. -/
lemma taskKey_ne_removedKey {pid : Nat} (h : pid < UInt32.size) : taskKey pid ≠ removedKey := by
  have hhalf : UInt32.size < removedKey := by decide
  unfold taskKey
  omega

end Slot

namespace TaskTable

/-- Search the `n` slots of a window from place `i` on by their numbers alone. -/
def seekKeyFrom (t : TaskTable) (pid : Nat) : (n i : Nat) → (free : Option Nat) → Found
  | 0, _, free => .absent free
  | n + 1, i, free =>
    have := t.position_lt pid i
    let slot := t.slots[t.position pid i]
    if slot.key = taskKey pid then .live (t.position pid i) slot.state
    else if slot.key = Slot.vacantKey then .absent (free.or (some (t.position pid i)))
    else if slot.key = Slot.removedKey then
      t.seekKeyFrom pid n (i + 1) (free.or (some (t.position pid i)))
    else t.seekKeyFrom pid n (i + 1) free

/-- Search for a task by its number. -/
def seekKey (t : TaskTable) (pid : Nat) : Found := t.seekKeyFrom pid probeWindow 0 none

variable {t : TaskTable} {pid n i : Nat} {free : Option Nat}

lemma seekKeyFrom_eq (hpid : pid < UInt32.size)
    (ht : ∀ (k p : Nat) (s : TaskState), t.slots[k]? = some (.live p s) → p < UInt32.size) :
    t.seekKeyFrom pid n i free = t.seekFrom pid n i free := by
  induction n generalizing i free with
  | zero => rfl
  | succ n ih =>
    have hlt := t.position_lt pid i
    unfold seekKeyFrom seekFrom
    cases hslot : t.slots[t.position pid i] with
    | vacant => simp [Slot.key, hslot, Slot.vacantKey_ne_taskKey]
    | removed left =>
      have hpid := (Slot.taskKey_ne_removedKey hpid).symm
      simp [Slot.key, hslot, hpid, Slot.removedKey_ne_vacantKey, ih]
    | live p s =>
      have hp := ht _ p s (hslot ▸ Array.getElem?_eq_getElem hlt)
      have hvacant := (Slot.vacantKey_ne_taskKey p).symm
      by_cases heq : p = pid
      · simp [Slot.key, Slot.state, hslot, heq]
      · have hne : taskKey p ≠ taskKey pid := fun h => heq (Nat.succ.inj h)
        simp [Slot.key, hslot, heq, hne, hvacant, Slot.taskKey_ne_removedKey hp, ih]

/-- Numbers tell slots apart: a search by numbers finds what a search by tasks does. -/
lemma seekKey_eq (hpid : pid < UInt32.size)
    (ht : ∀ (k p : Nat) (s : TaskState), t.slots[k]? = some (.live p s) → p < UInt32.size) :
    t.seekKey pid = t.seek pid :=
  seekKeyFrom_eq hpid ht

end TaskTable

/-! ## What a table answers -/

/-- What may be asked of a table. -/
inductive TableRequest where
  /-- Track a task, and say which slot it has. -/
  | track (pid : Nat)
  /-- Say which slot a task has, and what its state is. -/
  | find (pid : Nat)
  /-- Change the state of a task. -/
  | change (pid : Nat) (f : TaskState → TaskState)
  /-- Change the state in a slot that was named before, whichever task has the slot now, if any. -/
  | write (k : Nat) (f : TaskState → TaskState)
  /-- Forget a task. -/
  | remove (pid : Nat)

/-- The task that a request names, if it names one, has an id that fits in half a word. -/
def TableRequest.Fits : TableRequest → Prop
  | track pid => pid < UInt32.size
  | find pid => pid < UInt32.size
  | change pid _ => pid < UInt32.size
  | write _ _ => True
  | remove pid => pid < UInt32.size

/-- What a table answers. -/
inductive TableAnswer where
  /-- The slot that the task has, if it is tracked. -/
  | slot (k : Option Nat)
  /-- The slot that the task has and its state, if it is tracked. -/
  | found (k : Option Nat) (s : Option TaskState)
  /-- What was asked for is written. -/
  | written
  /-- Whether the task was tracked. -/
  | removed (b : Bool)
deriving DecidableEq

namespace TaskTable

/-- Change the state that stands in a slot, whether a task has the slot or not. -/
def writeSlot (t : TaskTable) (k : Nat) (f : TaskState → TaskState) : TaskTable :=
  match t.slots[k]? with
  | some (.live pid s) => t.setSlot k (.live pid (f s)) t.count
  | some (.removed s) => t.setSlot k (.removed (f s)) t.count
  | _ => t

/-- Answer a request. -/
def serve (t : TaskTable) : TableRequest → TableAnswer × TaskTable
  | .track pid => (.slot ((t.track pid).slotOf? pid), t.track pid)
  | .find pid => (.found (t.slotOf? pid) (t.get? pid), t)
  | .change pid f => (.written, t.modify pid f)
  | .write k f => (.written, t.writeSlot k f)
  | .remove pid => (.removed (t.contains pid), t.remove pid)

/-- Answer requests in order. -/
def serveAll (t : TaskTable) : List TableRequest → List TableAnswer × TaskTable
  | [] => ([], t)
  | r :: rs => ((t.serve r).1 :: ((t.serve r).2.serveAll rs).1, ((t.serve r).2.serveAll rs).2)

end TaskTable

/-- Tracked tasks: the slot that each of them has, and its state. -/
abbrev Tracked := Nat → Option (Nat × TaskState)

namespace Tracked

/-- No task is tracked. -/
def nobody : Tracked := fun _ => none

/-- Say something else of one task. -/
def set (m : Tracked) (pid : Nat) (x : Option (Nat × TaskState)) : Tracked :=
  fun p => if p = pid then x else m p

/-- Change the state in a slot. -/
def write (m : Tracked) (k : Nat) (f : TaskState → TaskState) : Tracked :=
  fun p => (m p).map fun (j, s) => (j, if j = k then f s else s)

/-- A task has the slot. -/
def Taken (m : Tracked) (k : Nat) : Prop := ∃ pid s, m pid = some (k, s)

/-- The number of tracked tasks. -/
def Numbers (m : Tracked) (n : Nat) : Prop :=
  ∃ pids : List Nat, pids.Nodup ∧ (∀ pid, pid ∈ pids ↔ (m pid).isSome) ∧ pids.length = n

/-- How a request is answered, where each task may have the slots of its window.  A task that is
not tracked gets a slot of its window that no task has, and the state of a task of which nothing is
known; it is refused when all slots of its window are taken. -/
inductive Serves (window : Nat → List Nat) (m : Tracked) :
    TableRequest → TableAnswer → Tracked → Prop
  | known {pid k : Nat} {s : TaskState} (h : m pid = some (k, s)) :
      Serves window m (.track pid) (.slot (some k)) m
  | new {pid k : Nat} (h : m pid = none) (hk : k ∈ window pid) (hfree : ¬ m.Taken k) :
      Serves window m (.track pid) (.slot (some k)) (m.set pid (some (k, {})))
  | refused {pid : Nat} (h : m pid = none) (hfull : ∀ k ∈ window pid, m.Taken k) :
      Serves window m (.track pid) (.slot none) m
  | found (pid : Nat) :
      Serves window m (.find pid) (.found ((m pid).map (·.1)) ((m pid).map (·.2))) m
  | changed (pid : Nat) (f : TaskState → TaskState) :
      Serves window m (.change pid f) .written (m.set pid ((m pid).map fun (k, s) => (k, f s)))
  | written (k : Nat) (f : TaskState → TaskState) :
      Serves window m (.write k f) .written (m.write k f)
  | removed (pid : Nat) :
      Serves window m (.remove pid) (.removed (m pid).isSome) (m.set pid none)

/-- How requests are answered in order. -/
inductive ServesAll (window : Nat → List Nat) :
    Tracked → List TableRequest → List TableAnswer → Tracked → Prop
  | nil (m : Tracked) : ServesAll window m [] [] m
  | cons {m m' m'' : Tracked} {r : TableRequest} {a : TableAnswer} {rs : List TableRequest}
      {as : List TableAnswer} (h : Serves window m r a m') (hs : ServesAll window m' rs as m'') :
      ServesAll window m (r :: rs) (a :: as) m''

/-! ### The number of tracked tasks -/

section Numbers

variable {m : Tracked} {pid n : Nat} {x : Nat × TaskState}

lemma set_self (m : Tracked) (pid : Nat) (x : Option (Nat × TaskState)) :
    m.set pid x pid = x := if_pos rfl

lemma set_of_ne (m : Tracked) {p : Nat} (x : Option (Nat × TaskState)) (h : p ≠ pid) :
    m.set pid x p = m p := if_neg h

/-- Saying of a task what is known changes nothing. -/
lemma set_eq_self {y : Option (Nat × TaskState)} (h : m pid = y) : m.set pid y = m := by
  funext p
  by_cases hp : p = pid
  · subst hp
    rw [set_self, h]
  · rw [set_of_ne m y hp]

lemma numbers_nobody : nobody.Numbers 0 := ⟨[], List.nodup_nil, by simp [nobody], rfl⟩

lemma Numbers.add (h : m.Numbers n) (hm : m pid = none) :
    (m.set pid (some x)).Numbers (n + 1) := by
  obtain ⟨pids, hn, hmem, rfl⟩ := h
  refine ⟨pid :: pids, List.nodup_cons.2 ⟨by simp [hmem, hm], hn⟩, fun p => ?_, rfl⟩
  by_cases hp : p = pid
  · simp [hp, set_self]
  · simp [hp, set_of_ne m _ hp, hmem]

lemma Numbers.change (h : m.Numbers n) (hm : (m pid).isSome) :
    (m.set pid (some x)).Numbers n := by
  obtain ⟨pids, hn, hmem, rfl⟩ := h
  refine ⟨pids, hn, fun p => ?_, rfl⟩
  by_cases hp : p = pid
  · simp [hp, set_self, hmem, hm]
  · simp [set_of_ne m _ hp, hmem]

lemma Numbers.drop (h : m.Numbers n) (hm : (m pid).isSome) :
    (m.set pid none).Numbers (n - 1) := by
  obtain ⟨pids, hn, hmem, rfl⟩ := h
  refine ⟨pids.erase pid, hn.erase pid, fun p => ?_, List.length_erase_of_mem ((hmem pid).2 hm)⟩
  rw [hn.mem_erase_iff]
  by_cases hp : p = pid
  · simp [hp, set_self]
  · simp [hp, set_of_ne m _ hp, hmem]

end Numbers

/-! ## What a table holds -/

/-- The tasks that a table holds, and their slots and states. -/
structure Describes (m : Tracked) (t : TaskTable) : Prop where
  /-- A slot is taken by the task that has it. -/
  live : ∀ pid k s, t.slots[k]? = some (.live pid s) ↔ m pid = some (k, s)
  /-- A search reaches the slot of each task. -/
  reached : ∀ pid k s, m pid = some (k, s) →
    ∃ i < probeWindow, k = t.position pid i ∧ ∀ j < i, t.slots[t.position pid j]? ≠ some .vacant
  /-- The table says how many tasks it holds. -/
  count : m.Numbers t.count

namespace Describes

variable {m : Tracked} {t : TaskTable} {pid k : Nat} {s : TaskState}

/-- No two tasks have one slot. -/
lemma pid_unique (h : m.Describes t) {p q : Nat} {s s' : TaskState} (hp : m p = some (k, s))
    (hq : m q = some (k, s')) : p = q := by
  have heq := ((h.live p k s).2 hp).symm.trans ((h.live q k s').2 hq)
  simp only [Option.some.injEq, Slot.live.injEq] at heq
  exact heq.1

lemma taken_iff (h : m.Describes t) : m.Taken k ↔ ∃ p s, t.slots[k]? = some (.live p s) := by
  simp only [Taken, h.live]

lemma slot_lt (h : m.Describes t) (hm : m pid = some (k, s)) : k < t.slots.size := by
  obtain ⟨hk, -⟩ := Array.getElem?_eq_some_iff.1 ((h.live pid k s).2 hm)
  exact hk

/-! ### Searching -/

lemma seek_of_tracked (h : m.Describes t) (hm : m pid = some (k, s)) :
    t.seek pid = .live k s := by
  cases hs : t.seek pid with
  | live k' s' =>
    obtain ⟨j, -, -, -, hlive⟩ := TaskTable.seekFrom_live hs
    obtain ⟨rfl, rfl⟩ : k = k' ∧ s = s' := by
      simpa [hm] using (h.live pid k' s').1 hlive
    rfl
  | absent found =>
    obtain ⟨i, hi, rfl, hvacant⟩ := h.reached pid k s hm
    obtain ⟨j, -, hj, hv⟩ := TaskTable.seekFrom_absent hs (Nat.zero_le i) (by omega)
      ((h.live pid _ s).2 hm)
    exact absurd hv (hvacant j hj)

lemma seek_of_untracked (h : m.Describes t) (hm : m pid = none) :
    ∃ found, t.seek pid = .absent found := by
  cases hs : t.seek pid with
  | live k s =>
    obtain ⟨j, -, -, -, hlive⟩ := TaskTable.seekFrom_live hs
    rw [(h.live pid k s).1 hlive] at hm
    cases hm
  | absent found => exact ⟨found, rfl⟩

lemma slotOf?_eq (h : m.Describes t) (pid : Nat) : t.slotOf? pid = (m pid).map (·.1) := by
  unfold TaskTable.slotOf?
  rcases hm : m pid with _ | ⟨k, s⟩
  · obtain ⟨found, hs⟩ := h.seek_of_untracked hm
    rw [hs]
    rfl
  · rw [h.seek_of_tracked hm]
    rfl

lemma get?_eq (h : m.Describes t) (pid : Nat) : t.get? pid = (m pid).map (·.2) := by
  unfold TaskTable.get?
  rcases hm : m pid with _ | ⟨k, s⟩
  · obtain ⟨found, hs⟩ := h.seek_of_untracked hm
    rw [hs]
    rfl
  · rw [h.seek_of_tracked hm]
    rfl

/-! ### Writing -/

/-- Writing a slot keeps up the description, if what is said of that slot is right and nothing else
is said of the others. -/
lemma setSlot (h : m.Describes t) {m' : Tracked} {x : Slot} {c : Nat} (hk : k < t.slots.size)
    (hx : x ≠ .vacant) (hhere : ∀ p s, x = .live p s ↔ m' p = some (k, s))
    (helse : ∀ p j s, j ≠ k → (m p = some (j, s) ↔ m' p = some (j, s)))
    (hreached : ∀ p s, m' p = some (k, s) →
      ∃ i < probeWindow, k = t.position p i ∧ ∀ j < i, t.slots[t.position p j]? ≠ some .vacant)
    (hc : m'.Numbers c) : m'.Describes (t.setSlot k x c) := by
  have hslot : ∀ j, (t.setSlot k x c).slots[j]? = if k = j then some x else t.slots[j]? := by
    intro j
    show (t.slots.setIfInBounds k x)[j]? = _
    rw [Array.getElem?_setIfInBounds, if_pos hk]
  have hposition : ∀ p i, (t.setSlot k x c).position p i = t.position p i := by
    intro p i
    show _ % (t.slots.setIfInBounds k x).size = _
    rw [Array.size_setIfInBounds]
    rfl
  refine ⟨fun p j s => ?_, fun p j s hm => ?_, hc⟩
  · -- what is written says what is in slot `k`; the other slots are as they were
    rw [hslot]
    split
    · next hkj =>
      subst hkj
      rw [Option.some.injEq]
      exact hhere p s
    · next hkj => exact (h.live p j s).trans (helse p j s (Ne.symm hkj))
  · -- writing never makes a slot vacant, so searches go as far as before
    have hr : ∃ i < probeWindow, j = t.position p i ∧
        ∀ j' < i, t.slots[t.position p j']? ≠ some .vacant := by
      by_cases hjk : j = k
      · subst hjk
        exact hreached p s hm
      · exact h.reached p j s ((helse p j s hjk).2 hm)
    obtain ⟨i, hi, hj, hvacant⟩ := hr
    refine ⟨i, hi, hj.trans (hposition p i).symm, fun j' hj' => ?_⟩
    rw [hslot, hposition]
    split
    · simpa using hx
    · exact hvacant j' hj'

/-- A task that has a slot, or may take it, is written there. -/
lemma setLive (h : m.Describes t) {c : Nat} (hk : k < t.slots.size)
    (hfree : ∀ p s, m p = some (k, s) → p = pid) (hmine : ∀ j s, m pid = some (j, s) → j = k)
    (hreached : ∃ i < probeWindow, k = t.position pid i ∧
      ∀ j < i, t.slots[t.position pid j]? ≠ some .vacant)
    (hc : (m.set pid (some (k, s))).Numbers c) :
    (m.set pid (some (k, s))).Describes (t.setSlot k (.live pid s) c) := by
  refine h.setSlot hk (by simp) (fun p s' => ?_) (fun p j s' hj => ?_) (fun p s' hm => ?_) hc
  · by_cases hp : p = pid
    · subst hp
      simp [set_self]
    · have hne : m p ≠ some (k, s') := fun hm => hp (hfree p s' hm)
      simp [set_of_ne m _ hp, hne, Ne.symm hp]
  · by_cases hp : p = pid
    · subst hp
      have hne : m p ≠ some (j, s') := fun hm => hj (hmine j s' hm)
      simp [set_self, hne, Ne.symm hj]
    · rw [set_of_ne m _ hp]
  · by_cases hp : p = pid
    · subst hp
      exact hreached
    · rw [set_of_ne m _ hp] at hm
      exact absurd (hfree p s' hm) hp

/-- A tracked task is written in its slot. -/
lemma setState (h : m.Describes t) (hm : m pid = some (k, s)) (s' : TaskState) :
    (m.set pid (some (k, s'))).Describes (t.setSlot k (.live pid s') t.count) := by
  refine h.setLive (h.slot_lt hm) (fun p s'' hp => h.pid_unique hp hm) (fun j s'' hj => ?_)
    (h.reached pid k s hm) (h.count.change (by simp [hm]))
  rw [hm] at hj
  cases hj
  rfl

/-- The slot of a tracked task is given back. -/
lemma setRemoved (h : m.Describes t) (hm : m pid = some (k, s)) :
    (m.set pid none).Describes (t.setSlot k (.removed s) (t.count - 1)) := by
  have hgone : ∀ p s', m.set pid none p ≠ some (k, s') := by
    intro p s' hp
    by_cases hpid : p = pid
    · subst hpid
      rw [set_self] at hp
      cases hp
    · rw [set_of_ne m _ hpid] at hp
      exact hpid (h.pid_unique hp hm)
  refine h.setSlot (h.slot_lt hm) (by simp) (fun p s' => by simp [hgone]) (fun p j s' hj => ?_)
    (fun p s' hp => absurd hp (hgone p s')) (h.count.drop (by simp [hm]))
  by_cases hp : p = pid
  · subst hp
    simp [set_self, hm, Ne.symm hj]
  · rw [set_of_ne m _ hp]

/-- A task that is not tracked takes the slot that a search finds for it. -/
lemma setNew (h : m.Describes t) (hm : m pid = none) (hs : t.seek pid = .absent (some k)) :
    (m.set pid (some (k, {}))).Describes (t.setSlot k (.live pid {}) (t.count + 1)) ∧
      k ∈ t.window pid ∧ ¬ m.Taken k := by
  obtain ⟨i, -, hi, rfl, hfree, hlive⟩ := TaskTable.seekFrom_free hs
  -- the slot may have belonged to a task that is gone: no vacant slot before it is what counts
  have hnot : ¬ m.Taken (t.position pid i) := by
    rw [h.taken_iff]
    rintro ⟨p, s, hp⟩
    exact hfree p s hp
  refine ⟨h.setLive (t.position_lt pid i) (fun p s hp => absurd ⟨p, s, hp⟩ hnot)
    (fun j s hj => ?_) ⟨i, by omega, rfl, fun j hj hv => ?_⟩ (h.count.add hm),
    List.mem_map.2 ⟨i, List.mem_range.2 (by omega), rfl⟩, hnot⟩
  · rw [hm] at hj
    cases hj
  · obtain ⟨p, s, hp⟩ := hlive j (Nat.zero_le j) hj
    rw [hp] at hv
    cases hv

/-- When a search finds no slot for a task, all slots of its window are taken. -/
lemma taken_of_full (h : m.Describes t) (hs : t.seek pid = .absent none) :
    ∀ k ∈ t.window pid, m.Taken k := by
  intro k hk
  obtain ⟨i, hi, rfl⟩ := List.mem_map.1 hk
  obtain ⟨p, s, -, hp⟩ := TaskTable.seekFrom_full hs (Nat.zero_le i)
    (by have := List.mem_range.1 hi; omega)
  exact h.taken_iff.2 ⟨p, s, hp⟩

/-! ### Requests -/

lemma serve_track (h : m.Describes t) (pid : Nat) :
    ∃ m', Serves t.window m (.track pid) (t.serve (.track pid)).1 m' ∧
      m'.Describes (t.serve (.track pid)).2 := by
  simp only [TaskTable.serve]
  rcases hm : m pid with _ | ⟨k, s⟩
  · obtain ⟨found, hs⟩ := h.seek_of_untracked hm
    cases found with
    | none =>
      have ht : t.track pid = t := by rw [TaskTable.track, hs]
      rw [ht, h.slotOf?_eq, hm]
      exact ⟨m, .refused hm (h.taken_of_full hs), h⟩
    | some k =>
      have ht : t.track pid = t.setSlot k (.live pid {}) (t.count + 1) := by
        rw [TaskTable.track, hs]
        simp only [TaskState.reset_eq]
      obtain ⟨hnew, hk, hfree⟩ := h.setNew hm hs
      rw [ht, hnew.slotOf?_eq, set_self]
      exact ⟨_, .new hm hk hfree, hnew⟩
  · have ht : t.track pid = t := by rw [TaskTable.track, h.seek_of_tracked hm]
    rw [ht, h.slotOf?_eq, hm]
    exact ⟨m, .known hm, h⟩

lemma serve_change (h : m.Describes t) (pid : Nat) (f : TaskState → TaskState) :
    (m.set pid ((m pid).map fun (k, s) => (k, f s))).Describes (t.modify pid f) := by
  unfold TaskTable.modify
  rw [h.get?_eq]
  rcases hm : m pid with _ | ⟨k, s⟩
  · rw [Option.map_none, set_eq_self hm]
    exact h
  · simp only [Option.map_some, TaskTable.put, h.seek_of_tracked hm]
    exact h.setState hm (f s)

lemma serve_write (h : m.Describes t) (k : Nat) (f : TaskState → TaskState) :
    (m.write k f).Describes (t.writeSlot k f) := by
  by_cases hk : m.Taken k
  · -- the slot is that of one task, so writing it is writing the state of that task
    obtain ⟨pid, s, hm⟩ := hk
    have hw : m.write k f = m.set pid (some (k, f s)) := by
      funext p
      by_cases hp : p = pid
      · subst hp
        simp [write, set_self, hm]
      · rcases hq : m p with _ | ⟨j, s'⟩
        · simp [write, set_of_ne m _ hp, hq]
        · have hj : j ≠ k := by
            rintro rfl
            exact hp (h.pid_unique hq hm)
          simp [write, set_of_ne m _ hp, hq, hj]
    rw [hw, TaskTable.writeSlot, (h.live pid k s).2 hm]
    exact h.setState hm (f s)
  · -- nobody has the slot any more: what is written stays there until a task takes the slot
    have hno : ∀ p s, m p ≠ some (k, s) := fun p s hm => hk ⟨p, s, hm⟩
    have hw : m.write k f = m := by
      funext p
      rcases hq : m p with _ | ⟨j, s'⟩
      · simp [write, hq]
      · have hj : j ≠ k := by
          rintro rfl
          exact hno p s' hq
        simp [write, hq, hj]
    rw [hw]
    unfold TaskTable.writeSlot
    split
    · next p s hs => exact absurd (h.taken_iff.2 ⟨p, s, hs⟩) hk
    · next s hs =>
      obtain ⟨hlt, -⟩ := Array.getElem?_eq_some_iff.1 hs
      exact h.setSlot hlt (by simp) (fun p s' => by simp [hno]) (fun _ _ _ _ => Iff.rfl)
        (fun p s' hm => absurd hm (hno p s')) h.count
    · exact h

lemma serve_remove (h : m.Describes t) (pid : Nat) :
    (m.set pid none).Describes (t.remove pid) := by
  unfold TaskTable.remove
  rcases hm : m pid with _ | ⟨k, s⟩
  · obtain ⟨found, hs⟩ := h.seek_of_untracked hm
    rw [hs, set_eq_self hm]
    exact h
  · rw [h.seek_of_tracked hm]
    exact h.setRemoved hm

/-- One request is answered as the description says, which tells then what the table holds. -/
lemma serve (h : m.Describes t) (r : TableRequest) :
    ∃ m', Serves t.window m r (t.serve r).1 m' ∧ m'.Describes (t.serve r).2 := by
  cases r with
  | track pid => exact h.serve_track pid
  | find pid =>
    refine ⟨m, ?_, h⟩
    simp only [TaskTable.serve, h.slotOf?_eq, h.get?_eq]
    exact .found pid
  | change pid f => exact ⟨_, .changed pid f, h.serve_change pid f⟩
  | write k f => exact ⟨_, .written k f, h.serve_write k f⟩
  | remove pid =>
    refine ⟨_, ?_, h.serve_remove pid⟩
    simp only [TaskTable.serve, TaskTable.contains, h.get?_eq, Option.isSome_map]
    exact .removed pid

end Describes

lemma describes_ofCapacity (n : Nat) : nobody.Describes (.ofCapacity n) where
  live pid k s := by
    simp [TaskTable.ofCapacity, nobody, Array.getElem?_replicate]
  reached _ _ _ hm := by cases hm
  count := numbers_nobody

end Tracked

/-! ## One task and all others -/

namespace TaskTable

/-- A table that holds some tasks. -/
def Sound (t : TaskTable) : Prop := ∃ m : Tracked, m.Describes t

/-- The second table is the first one after a task was tracked and perhaps written. -/
def Revised (t : TaskTable) (pid : Nat) (t' : TaskTable) : Prop :=
  t' = t.track pid ∨ ∃ s, t' = (t.track pid).put pid s

lemma sound_ofCapacity (n : Nat) : (ofCapacity n).Sound := ⟨_, Tracked.describes_ofCapacity n⟩

/-- A new table holds nobody. -/
lemma get?_ofCapacity (n pid : Nat) : (ofCapacity n).get? pid = none :=
  (Tracked.describes_ofCapacity n).get?_eq pid

/-- Writing a task is changing its state to what is written. -/
lemma put_eq_modify (t : TaskTable) (pid : Nat) (s : TaskState) :
    t.put pid s = t.modify pid fun _ => s := by
  unfold modify get? put
  cases t.seek pid <;> rfl

namespace Sound

variable {t t' : TaskTable}

/-- Tracking a task leaves all others alone. -/
lemma track (h : t.Sound) (pid : Nat) :
    (t.track pid).Sound ∧ ∀ p, p ≠ pid → (t.track pid).get? p = t.get? p := by
  obtain ⟨m, hm⟩ := h
  obtain ⟨m', hserves, hm'⟩ := hm.serve_track pid
  generalize (t.serve (.track pid)).1 = answer at hserves
  have hm' : m'.Describes (t.track pid) := hm'
  refine ⟨⟨m', hm'⟩, fun p hp => ?_⟩
  rw [hm'.get?_eq, hm.get?_eq]
  cases hserves with
  | known h => rfl
  | new h hk hfree => rw [Tracked.set_of_ne m _ hp]
  | refused h hfull => rfl

/-- A task that was not tracked and is tracked now is one of which nothing is known. -/
lemma get?_track_self (h : t.Sound) (pid : Nat) :
    (t.track pid).get? pid = t.get? pid ∨
      t.get? pid = none ∧ (t.track pid).get? pid = some {} := by
  obtain ⟨m, hm⟩ := h
  obtain ⟨m', hserves, hm'⟩ := hm.serve_track pid
  generalize (t.serve (.track pid)).1 = answer at hserves
  have hm' : m'.Describes (t.track pid) := hm'
  rw [hm'.get?_eq, hm.get?_eq]
  cases hserves with
  | known h => exact .inl rfl
  | new h hk hfree => exact .inr ⟨by rw [h]; rfl, by rw [Tracked.set_self]; rfl⟩
  | refused h hfull => exact .inl rfl

/-- Changing a task leaves all others alone. -/
lemma modify (h : t.Sound) (pid : Nat) (f : TaskState → TaskState) :
    (t.modify pid f).Sound ∧ (t.modify pid f).get? pid = (t.get? pid).map f ∧
      ∀ p, p ≠ pid → (t.modify pid f).get? p = t.get? p := by
  obtain ⟨m, hm⟩ := h
  have hm' := hm.serve_change pid f
  refine ⟨⟨_, hm'⟩, ?_, fun p hp => ?_⟩
  · rw [hm'.get?_eq, hm.get?_eq, Tracked.set_self]
    cases m pid <;> rfl
  · rw [hm'.get?_eq, hm.get?_eq, Tracked.set_of_ne m _ hp]

lemma revised (h : t.Sound) {pid : Nat} (hr : t.Revised pid t') :
    t'.Sound ∧ ∀ p, p ≠ pid → t'.get? p = t.get? p := by
  obtain ⟨htrack, hget⟩ := h.track pid
  rcases hr with rfl | ⟨s, rfl⟩
  · exact ⟨htrack, hget⟩
  · obtain ⟨hput, -, hgetput⟩ := htrack.modify pid fun _ => s
    rw [put_eq_modify]
    exact ⟨hput, fun p hp => (hgetput p hp).trans (hget p hp)⟩

/-- Forgetting a task leaves all others alone. -/
lemma remove (h : t.Sound) (pid : Nat) :
    (t.remove pid).Sound ∧ ∀ p, p ≠ pid → (t.remove pid).get? p = t.get? p := by
  obtain ⟨m, hm⟩ := h
  have hm' := hm.serve_remove pid
  refine ⟨⟨_, hm'⟩, fun p hp => ?_⟩
  rw [hm'.get?_eq, hm.get?_eq, Tracked.set_of_ne m _ hp]

/-- A task that was forgotten is not tracked. -/
lemma get?_remove_self (h : t.Sound) (pid : Nat) : (t.remove pid).get? pid = none := by
  obtain ⟨m, hm⟩ := h
  rw [(hm.serve_remove pid).get?_eq, Tracked.set_self]
  rfl

end Sound

end TaskTable

/-! ## The windows -/

namespace TaskTable

lemma size_serve (t : TaskTable) (r : TableRequest) :
    (t.serve r).2.slots.size = t.slots.size := by
  have hset : ∀ k x c, (t.setSlot k x c).slots.size = t.slots.size := fun k x c =>
    Array.size_setIfInBounds
  cases r with
  | track pid =>
    simp only [serve, track]
    split
    · exact hset _ _ _
    · rfl
  | find pid => rfl
  | change pid f =>
    simp only [serve, modify, put]
    split
    · split
      · exact hset _ _ _
      · rfl
    · rfl
  | write k f =>
    simp only [serve, writeSlot]
    split
    · exact hset _ _ _
    · exact hset _ _ _
    · rfl
  | remove pid =>
    simp only [serve, remove]
    split
    · exact hset _ _ _
    · rfl

lemma window_congr {t t' : TaskTable} (h : t'.slots.size = t.slots.size) :
    t'.window = t.window := by
  have hp : t'.position = t.position := by
    funext pid i
    rw [position, position, h]
  funext pid
  rw [window, window, hp]

/-- The slots of a window are all different. -/
lemma nodup_window {t : TaskTable} (h : probeWindow ≤ t.slots.size) (pid : Nat) :
    (t.window pid).Nodup := by
  refine List.Nodup.map_on (fun i hi j hj hij => ?_) List.nodup_range
  have hi := List.mem_range.1 hi
  have hj := List.mem_range.1 hj
  exact Nat.ModEq.eq_of_lt_of_lt (Nat.ModEq.add_left_cancel' (taskHash pid) hij) (by omega) (by omega)

end TaskTable

/-! ## The ids -/

namespace Tracked

/-- The ids of all tracked tasks fit in half a word. -/
def Fits (m : Tracked) : Prop := ∀ pid, (m pid).isSome → pid < UInt32.size

variable {m m' : Tracked} {window : Nat → List Nat}

lemma Fits.set (h : m.Fits) {pid : Nat} (hp : pid < UInt32.size) (x : Option (Nat × TaskState)) :
    (m.set pid x).Fits := by
  intro p hsome
  by_cases heq : p = pid
  · exact heq ▸ hp
  · rw [set_of_ne m x heq] at hsome
    exact h p hsome

lemma Serves.fits {r : TableRequest} {a : TableAnswer} (h : Serves window m r a m')
    (hr : r.Fits) (hm : m.Fits) : m'.Fits := by
  cases h with
  | known | refused | found => exact hm
  | new => exact hm.set hr _
  | changed => exact hm.set hr _
  | written k f =>
    intro p hsome
    rw [write, Option.isSome_map] at hsome
    exact hm p hsome
  | removed => exact hm.set hr _

lemma ServesAll.fits {rs : List TableRequest} {as : List TableAnswer}
    (h : ServesAll window m rs as m') (hrs : ∀ r ∈ rs, r.Fits) (hm : m.Fits) : m'.Fits := by
  induction h with
  | nil => exact hm
  | cons h _ ih =>
    exact ih (fun r hr => hrs r (List.mem_cons_of_mem _ hr))
      (h.fits (hrs _ List.mem_cons_self) hm)

/-- Where all tracked tasks have ids that fit in half a word, numbers tell slots apart. -/
lemma Describes.seekKey_eq {t : TaskTable} (h : m.Describes t) (hm : m.Fits) {pid : Nat}
    (hpid : pid < UInt32.size) : t.seekKey pid = t.seek pid := by
  refine TaskTable.seekKey_eq hpid fun k p s hs => hm p ?_
  rw [(h.live p k s).1 hs]
  rfl

end Tracked

/-! ## Runs -/

lemma Tracked.Describes.serveAll {m : Tracked} {t : TaskTable} (h : m.Describes t)
    (rs : List TableRequest) :
    ∃ m', ServesAll t.window m rs (t.serveAll rs).1 m' ∧ m'.Describes (t.serveAll rs).2 := by
  induction rs generalizing m t with
  | nil => exact ⟨m, .nil m, h⟩
  | cons r rs ih =>
    obtain ⟨m₁, hr, h₁⟩ := h.serve r
    obtain ⟨m₂, hrs, h₂⟩ := ih h₁
    rw [TaskTable.window_congr (t.size_serve r)] at hrs
    exact ⟨m₂, .cons hr hrs, h₂⟩

/-- A table answers as a finite map from tasks to slots and states does.  From the start on,
whatever is asked, each task that is tracked has one slot of its window, which no other task has,
and its state is what was last written there; a task that comes is refused exactly when the slots
of its window, which are sixty-four, are all taken.  The table says how many tasks it holds, and no
search leaves the table.  Where all ids fit in half a word, a search that goes by the numbers in the
slots finds the same. -/
theorem TaskTable.serveAll_as_map (n : Nat) (rs : List TableRequest) :
    ∃ m, Tracked.ServesAll (ofCapacity n).window .nobody rs ((ofCapacity n).serveAll rs).1 m ∧
      m.Describes ((ofCapacity n).serveAll rs).2 ∧
      (∀ pid, ((ofCapacity n).serveAll rs).2.get? pid = (m pid).map (·.2)) ∧
      m.Numbers ((ofCapacity n).serveAll rs).2.count ∧
      (∀ pid, ((ofCapacity n).window pid).Nodup ∧ ((ofCapacity n).window pid).length = 64) ∧
      (∀ pid i, (ofCapacity n).position pid i < ((ofCapacity n).serveAll rs).2.slots.size) ∧
      ((∀ r ∈ rs, r.Fits) → ∀ pid < UInt32.size,
        ((ofCapacity n).serveAll rs).2.seekKey pid = ((ofCapacity n).serveAll rs).2.seek pid) := by
  have hwindow : probeWindow ≤ (ofCapacity n).slots.size := by
    rw [ofCapacity, Array.size_replicate]
    exact Nat.le_trans (Nat.le_max_left _ _) (le_tableSize n)
  have hsize : ∀ (t : TaskTable), (t.serveAll rs).2.slots.size = t.slots.size := by
    induction rs with
    | nil => exact fun _ => rfl
    | cons r rs ih => exact fun t => (ih (t.serve r).2).trans (t.size_serve r)
  have hnobody : Tracked.nobody.Fits := fun pid hsome => by cases hsome
  obtain ⟨m, hrs, hm⟩ := (Tracked.describes_ofCapacity n).serveAll rs
  refine ⟨m, hrs, hm, hm.get?_eq, hm.count, fun pid => ⟨nodup_window hwindow pid, ?_⟩,
    fun pid i => ?_, fun hfits pid hpid => hm.seekKey_eq (hrs.fits hfits hnobody) hpid⟩
  · rw [window, List.length_map, List.length_range, probeWindow]
  · rw [hsize]
    exact (ofCapacity n).position_lt pid i

/-- A task is forgotten, what it left behind is written once more, and a task whose window begins at
the same slot comes. -/
def reuseRequests : List TableRequest :=
  [.track 1, .change 1 fun s => { s with burst := 5 }, .remove 1,
    .write 57 fun s => { s with burst := 7 }, .track 60, .find 60, .find 1]

theorem TaskTable.serveAll_as_map_reuseRequests :
    (serveAll (.ofCapacity 0) reuseRequests).1 =
        [.slot (some 57), .written, .removed true, .written, .slot (some 57),
          .found (some 57) (some {}), .found none none] ∧
      (∀ r ∈ reuseRequests, r.Fits) ∧
      (serveAll (.ofCapacity 0) reuseRequests).2.seekKey (UInt32.size - 1) =
        (serveAll (.ofCapacity 0) reuseRequests).2.seek (UInt32.size - 1) := by
  have hfits : ∀ r ∈ reuseRequests, r.Fits := by
    simp [reuseRequests, TableRequest.Fits, UInt32.size]
  obtain ⟨m, -, -, -, -, -, -, hkey⟩ := serveAll_as_map 0 reuseRequests
  exact ⟨by decide, hfits, hkey hfits _ (by decide)⟩

end CoreSteer
