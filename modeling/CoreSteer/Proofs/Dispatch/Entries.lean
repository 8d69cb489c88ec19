import CoreSteer.Dispatch.Queue
import Mathlib.Algebra.GroupWithZero.Nat
import Mathlib.Data.List.Perm.Basic
/-!
# What the dispatch queues hold

A queue holds a list of tasks in no particular order, `DispatchQueue.entries`; all queues together
hold `DispatchQueues.entries`.  Each operation is described by what it does to these lists up to
their order: coming adds one entry, popping takes one out, and removing a task leaves out what
belongs to it.  A queue is `Counted` when it says how many entries it has, which all operations
keep up.
-/
namespace CoreSteer

/-- Of several lists, with distinct names, one gets a further member. -/
lemma perm_flatMap_cons {κ α : Type} {names : List κ} {k : κ} {f g : κ → List α} {a : α}
    (hn : names.Nodup) (hk : k ∈ names) (hg : (g k).Perm (a :: f k))
    (hfg : ∀ j ∈ names, j ≠ k → g j = f j) :
    (names.flatMap g).Perm (a :: names.flatMap f) := by
  induction names with
  | nil => cases hk
  | cons j names ih =>
    obtain ⟨hj, hn⟩ := List.nodup_cons.1 hn
    rw [List.flatMap_cons, List.flatMap_cons]
    rcases List.mem_cons.1 hk with rfl | hk
    -- names are distinct, so the lists after this one are the same
    · have hrest : names.flatMap g = names.flatMap f := by
        rw [List.flatMap_def, List.flatMap_def]
        congr 1
        refine List.map_congr_left fun i hi => hfg i (List.mem_cons_of_mem _ hi) ?_
        rintro rfl
        exact hj hi
      rw [hrest]
      exact hg.append_right _
    · have hjk : j ≠ k := by
        rintro rfl
        exact hj hk
      rw [hfg j List.mem_cons_self hjk]
      have := ih hn hk fun i hi => hfg i (List.mem_cons_of_mem _ hi)
      exact (this.append_left (f j)).trans List.perm_middle

namespace DispatchQueue

/-- The tasks in a queue, in no particular order. -/
def entries (q : DispatchQueue) : List Waiting := q.heap.toList

/-- The queue says how many tasks it holds. -/
def Counted (q : DispatchQueue) : Prop := q.nr = q.entries.length

lemma counted_ofHeap (h : Heap Waiting) : (ofHeap h).Counted :=
  (Heap.length_toList h).symm

lemma entries_push (q : DispatchQueue) (w : Waiting) :
    (q.push w).entries.Perm (w :: q.entries) :=
  Heap.toList_insert _ _

lemma entries_drop (q : DispatchQueue) (pid : Nat) :
    (q.drop pid).entries.Perm (q.entries.filter (·.pid != pid)) :=
  Heap.toList_filter _ _

lemma pop?_eq_some {q q' : DispatchQueue} {w : Waiting} (h : q.pop? = some (w, q')) :
    ∃ rest, q.heap.pop? = some (w, rest) ∧ q' = ofHeap rest := by
  unfold pop? at h
  split at h
  · cases h
  · split at h
    · next v rest hp =>
      simp only [Option.some.injEq, Prod.mk.injEq] at h
      obtain ⟨rfl, rfl⟩ := h
      exact ⟨rest, hp, rfl⟩
    · cases h

lemma entries_of_pop? {q q' : DispatchQueue} {w : Waiting} (h : q.pop? = some (w, q')) :
    q.entries.Perm (w :: q'.entries) := by
  obtain ⟨rest, hp, rfl⟩ := pop?_eq_some h
  exact Heap.toList_of_pop? hp

lemma le_of_pop? {q q' : DispatchQueue} {w : Waiting} (h : q.pop? = some (w, q')) :
    ∀ x ∈ q.entries, w ≤ x := by
  obtain ⟨rest, hp, -⟩ := pop?_eq_some h
  exact Heap.le_of_pop? hp

lemma counted_of_pop? {q q' : DispatchQueue} {w : Waiting} (h : q.pop? = some (w, q')) :
    q'.Counted := by
  obtain ⟨rest, -, rfl⟩ := pop?_eq_some h
  exact counted_ofHeap rest

/-- A queue that counts right is passed over only when it is empty. -/
lemma pop?_eq_none_iff {q : DispatchQueue} (hq : q.Counted) :
    q.pop? = none ↔ q.entries = [] := by
  unfold pop?
  rw [← List.length_eq_zero_iff, ← show q.nr = q.entries.length from hq]
  split
  · next h0 => simp [h0]
  · next h0 =>
    have hne : q.heap.pop? ≠ none := by
      rw [Ne, Heap.pop?_eq_none_iff, ← List.length_eq_zero_iff]
      exact fun he => h0 (hq.trans he)
    obtain ⟨⟨w, rest⟩, hp⟩ := Option.ne_none_iff_exists'.1 hne
    simp [hp, h0]

lemma shrinks_iff {q : DispatchQueue} {pid : Nat} :
    q.shrinks pid = true ↔ ∃ w ∈ q.entries, w.pid = pid := by
  have hl : (q.drop pid).heap.size = (q.entries.filter (·.pid != pid)).length := by
    rw [← Heap.length_toList]
    exact (q.entries_drop pid).length_eq
  rw [shrinks, decide_eq_true_eq, hl, ← Heap.length_toList]
  change (q.entries.filter (·.pid != pid)).length < q.entries.length ↔ _
  rw [List.length_filter_lt_length_iff_exists]
  simp

end DispatchQueue

namespace DispatchQueues

/-! ## The names of the queues -/

/-- The names of all queues that there are. -/
def ids (q : DispatchQueues) : List QueueId :=
  .fallback :: (List.range q.domains.size).map .domain

/-- The queue that a name stands for: the fallback queue where a domain has none. -/
def standsFor (q : DispatchQueues) : QueueId → QueueId
  | .fallback => .fallback
  | .domain d => if d < q.domains.size then .domain d else .fallback

lemma nodup_ids (q : DispatchQueues) : q.ids.Nodup := by
  refine List.nodup_cons.2 ⟨by simp, ?_⟩
  rw [List.nodup_iff_pairwise_ne, List.pairwise_map]
  exact List.nodup_range.imp fun h e => h (by injection e)

lemma standsFor_mem_ids (q : DispatchQueues) (id : QueueId) : q.standsFor id ∈ q.ids := by
  cases id with
  | fallback => exact List.mem_cons_self
  | domain d => by_cases hd : d < q.domains.size <;> simp [standsFor, ids, hd]

lemma standsFor_of_mem_ids {q : DispatchQueues} {id : QueueId} (h : id ∈ q.ids) :
    q.standsFor id = id := by
  cases id with
  | fallback => rfl
  | domain d =>
    have hd : d < q.domains.size := by simpa [ids] using h
    simp [standsFor, hd]

@[simp] lemma queue_standsFor (q : DispatchQueues) (id : QueueId) :
    q.queue (q.standsFor id) = q.queue id := by
  cases id with
  | fallback => rfl
  | domain d => by_cases hd : d < q.domains.size <;> simp [standsFor, queue, hd]

/-! ## What the operations do to a queue -/

lemma size_setQueue (q : DispatchQueues) (id : QueueId) (x : DispatchQueue) :
    (q.setQueue id x).domains.size = q.domains.size := by
  cases id with
  | fallback => rfl
  | domain d => by_cases hd : d < q.domains.size <;> simp [setQueue, hd]

lemma queue_setQueue (q : DispatchQueues) (id j : QueueId) (x : DispatchQueue) :
    (q.setQueue id x).queue j = if q.standsFor j = q.standsFor id then x else q.queue j := by
  cases id with
  | fallback =>
    cases j with
    | fallback => rfl
    | domain e => by_cases he : e < q.domains.size <;> simp [setQueue, queue, standsFor, he]
  | domain d =>
    -- a domain without a queue writes the fallback queue, and reads it
    by_cases hd : d < q.domains.size
    · cases j with
      | fallback => simp [setQueue, queue, standsFor, hd]
      | domain e =>
        by_cases he : e < q.domains.size
        · by_cases hde : e = d
          · subst hde
            simp [setQueue, queue, standsFor, hd]
          · have hed : d ≠ e := fun h => hde h.symm
            simp [setQueue, queue, standsFor, hd, he, hde, hed]
        · simp [setQueue, queue, standsFor, hd, he]
    · cases j with
      | fallback => simp [setQueue, queue, standsFor, hd]
      | domain e => by_cases he : e < q.domains.size <;> simp [setQueue, queue, standsFor, hd, he]

lemma queue_remove (q : DispatchQueues) (pid : Nat) (id : QueueId) :
    (q.remove pid).queue id = (q.queue id).drop pid := by
  cases id with
  | fallback => rfl
  | domain d =>
    by_cases hd : d < q.domains.size <;> simp [remove, queue, hd]

lemma setQueue_withArrivals (q : DispatchQueues) (id : QueueId) (x : DispatchQueue) (n : Nat) :
    { q with arrivals := n }.setQueue id x = { q.setQueue id x with arrivals := n } := by
  cases id with
  | fallback => rfl
  | domain d => by_cases hd : d < q.domains.size <;> simp [setQueue, hd]

lemma arrivals_setQueue (q : DispatchQueues) (id : QueueId) (x : DispatchQueue) :
    (q.setQueue id x).arrivals = q.arrivals := by
  cases id with
  | fallback => rfl
  | domain d => by_cases hd : d < q.domains.size <;> simp [setQueue, hd]

lemma ids_setQueue (q : DispatchQueues) (id : QueueId) (x : DispatchQueue) :
    (q.setQueue id x).ids = q.ids := by
  rw [ids, ids, size_setQueue]

lemma queue_insert (q : DispatchQueues) (id j : QueueId) (pid slice vtime : Nat) :
    (q.insert id pid slice vtime).queue j =
      if q.standsFor j = q.standsFor id then (q.queue id).push ⟨pid, vtime, slice, q.arrivals⟩
      else q.queue j :=
  queue_setQueue q id j _

lemma size_insert (q : DispatchQueues) (id : QueueId) (pid slice vtime : Nat) :
    (q.insert id pid slice vtime).domains.size = q.domains.size :=
  size_setQueue q id _

lemma size_remove (q : DispatchQueues) (pid : Nat) :
    (q.remove pid).domains.size = q.domains.size :=
  Array.size_map

lemma pop?_eq_some {q q' : DispatchQueues} {id : QueueId} {w : Waiting}
    (h : q.pop? id = some (w, q')) :
    ∃ x, (q.queue id).pop? = some (w, x) ∧ q' = q.setQueue id x := by
  unfold pop? at h
  split at h
  · next v x hp =>
    simp only [Option.some.injEq, Prod.mk.injEq] at h
    obtain ⟨rfl, rfl⟩ := h
    exact ⟨x, hp, rfl⟩
  · cases h

lemma arrivals_of_pop? {q q' : DispatchQueues} {id : QueueId} {w : Waiting}
    (h : q.pop? id = some (w, q')) : q'.arrivals = q.arrivals := by
  obtain ⟨x, -, rfl⟩ := pop?_eq_some h
  exact q.arrivals_setQueue id x

lemma size_of_pop? {q q' : DispatchQueues} {id : QueueId} {w : Waiting}
    (h : q.pop? id = some (w, q')) : q'.domains.size = q.domains.size := by
  obtain ⟨x, -, rfl⟩ := pop?_eq_some h
  exact q.size_setQueue id x

/-- Popping from several queues in turn pops from one of them. -/
lemma popFirst?_eq_some {q q' : DispatchQueues} {ids : List QueueId} {w : Waiting}
    (h : q.popFirst? ids = some (w, q')) : ∃ id ∈ ids, q.pop? id = some (w, q') := by
  induction ids with
  | nil => cases h
  | cons id ids ih =>
    unfold popFirst? at h
    split at h
    · next r hr =>
      cases h
      exact ⟨id, List.mem_cons_self, hr⟩
    · obtain ⟨j, hj, hp⟩ := ih h
      exact ⟨j, List.mem_cons_of_mem _ hj, hp⟩

lemma popFirst?_eq_none_iff {q : DispatchQueues} {ids : List QueueId} :
    q.popFirst? ids = none ↔ ∀ id ∈ ids, q.pop? id = none := by
  induction ids with
  | nil => simp [popFirst?]
  | cons id ids ih =>
    rw [List.forall_mem_cons, ← ih, popFirst?]
    split
    · next r hr => simp [hr]
    · next hr => simp [hr]

/-! ## The entries of all queues -/

/-- The tasks in all queues, in no particular order. -/
def entries (q : DispatchQueues) : List Waiting := q.ids.flatMap fun id => (q.queue id).entries

/-- Every queue says how many tasks it holds. -/
def Counted (q : DispatchQueues) : Prop := ∀ id, (q.queue id).Counted

lemma mem_entries {q : DispatchQueues} {w : Waiting} :
    w ∈ q.entries ↔ ∃ id, w ∈ (q.queue id).entries := by
  constructor
  · intro h
    obtain ⟨id, -, hw⟩ := List.mem_flatMap.1 h
    exact ⟨id, hw⟩
  · rintro ⟨id, hw⟩
    exact List.mem_flatMap.2 ⟨q.standsFor id, q.standsFor_mem_ids id, by simpa using hw⟩

/-- A queue that gets one further entry adds it to all entries. -/
lemma entries_setQueue_cons {q : DispatchQueues} {id : QueueId} {x : DispatchQueue}
    {w : Waiting} (h : x.entries.Perm (w :: (q.queue id).entries)) :
    (q.setQueue id x).entries.Perm (w :: q.entries) := by
  unfold entries
  rw [ids_setQueue]
  refine perm_flatMap_cons q.nodup_ids (q.standsFor_mem_ids id) ?_ fun j hj hne => ?_
  · rw [queue_setQueue, standsFor_of_mem_ids (q.standsFor_mem_ids id), if_pos rfl,
      queue_standsFor]
    exact h
  · rw [queue_setQueue, standsFor_of_mem_ids hj, if_neg hne]

/-- A queue that loses one entry takes it out of all entries. -/
lemma entries_cons_setQueue {q : DispatchQueues} {id : QueueId} {x : DispatchQueue}
    {w : Waiting} (h : (q.queue id).entries.Perm (w :: x.entries)) :
    q.entries.Perm (w :: (q.setQueue id x).entries) := by
  unfold entries
  rw [ids_setQueue]
  refine perm_flatMap_cons q.nodup_ids (q.standsFor_mem_ids id) ?_ fun j hj hne => ?_
  · rw [queue_setQueue, standsFor_of_mem_ids (q.standsFor_mem_ids id), if_pos rfl,
      queue_standsFor]
    exact h
  · rw [queue_setQueue, standsFor_of_mem_ids hj, if_neg hne]

lemma entries_insert (q : DispatchQueues) (id : QueueId) (pid slice vtime : Nat) :
    (q.insert id pid slice vtime).entries.Perm
      (⟨pid, vtime, slice, q.arrivals⟩ :: q.entries) :=
  entries_setQueue_cons (DispatchQueue.entries_push _ _)

lemma entries_of_pop? {q q' : DispatchQueues} {id : QueueId} {w : Waiting}
    (h : q.pop? id = some (w, q')) : q.entries.Perm (w :: q'.entries) := by
  obtain ⟨x, hp, rfl⟩ := pop?_eq_some h
  exact entries_cons_setQueue (DispatchQueue.entries_of_pop? hp)

lemma entries_remove (q : DispatchQueues) (pid : Nat) :
    (q.remove pid).entries.Perm (q.entries.filter (·.pid != pid)) := by
  have hids : (q.remove pid).ids = q.ids := by rw [ids, ids, size_remove]
  unfold entries
  rw [hids, List.filter_flatMap]
  refine List.Perm.flatMap_left _ fun id _ => ?_
  rw [queue_remove]
  exact DispatchQueue.entries_drop _ _

/-- A task that is taken out leaves all others. -/
lemma entries_split (q : DispatchQueues) (pid : Nat) :
    q.entries.Perm (q.entries.filter (·.pid == pid) ++ (q.remove pid).entries) := by
  have hsplit := List.filter_append_perm (fun w : Waiting => w.pid == pid) q.entries
  exact hsplit.symm.trans ((q.entries_remove pid).symm.append_left _)

lemma holds_iff {q : DispatchQueues} {pid : Nat} :
    q.holds pid = true ↔ ∃ w ∈ q.entries, w.pid = pid := by
  rw [holds, Bool.or_eq_true, Array.any_eq_true, DispatchQueue.shrinks_iff]
  constructor
  · rintro (⟨w, hw, hp⟩ | ⟨d, hd, hs⟩)
    · exact ⟨w, mem_entries.2 ⟨.fallback, hw⟩, hp⟩
    · obtain ⟨w, hw, hp⟩ := DispatchQueue.shrinks_iff.1 hs
      exact ⟨w, mem_entries.2 ⟨.domain d, by simpa [queue, hd] using hw⟩, hp⟩
  · rintro ⟨w, hw, hp⟩
    obtain ⟨id, hid, hw⟩ := List.mem_flatMap.1 hw
    cases id with
    | fallback => exact .inl ⟨w, hw, hp⟩
    | domain d =>
      have hd : d < q.domains.size := by simpa [ids] using hid
      exact .inr ⟨d, hd, DispatchQueue.shrinks_iff.2 ⟨w, by simpa [queue, hd] using hw, hp⟩⟩

/-! ## The counts of all queues -/

lemma counted_insert {q : DispatchQueues} (hq : q.Counted) (id : QueueId)
    (pid slice vtime : Nat) : (q.insert id pid slice vtime).Counted := by
  intro j
  rw [queue_insert]
  split
  · exact DispatchQueue.counted_ofHeap _
  · exact hq j

lemma counted_of_pop? {q q' : DispatchQueues} (hq : q.Counted) {id : QueueId} {w : Waiting}
    (h : q.pop? id = some (w, q')) : q'.Counted := by
  obtain ⟨x, hp, rfl⟩ := pop?_eq_some h
  intro j
  rw [queue_setQueue]
  split
  · exact DispatchQueue.counted_of_pop? hp
  · exact hq j

lemma counted_remove (q : DispatchQueues) (pid : Nat) : (q.remove pid).Counted := by
  intro id
  rw [queue_remove]
  exact DispatchQueue.counted_ofHeap _

lemma pop?_eq_none_iff {q : DispatchQueues} (hq : q.Counted) {id : QueueId} :
    q.pop? id = none ↔ (q.queue id).entries = [] := by
  rw [← DispatchQueue.pop?_eq_none_iff (hq id), pop?]
  split
  · next w x hp => simp [hp]
  · next hp => simp [hp]

/-- The total is the sum over all queues that there are. -/
lemma total_eq_sum (q : DispatchQueues) :
    q.total = (q.ids.map fun id => (q.queue id).nr).sum := by
  have hd : (List.range q.domains.size).map (fun d => (q.queue (.domain d)).nr) =
      q.domains.toList.map (·.nr) := by
    refine List.ext_getElem (by simp) fun i h _ => ?_
    have hi : i < q.domains.size := by simpa using h
    simp [queue, hi]
  have hfold : ∀ (l : List DispatchQueue) (n : Nat),
      l.foldl (fun n d => n + d.nr) n = n + (l.map (·.nr)).sum := by
    intro l
    induction l with
    | nil => simp
    | cons x l ih => intro n; simp [ih, Nat.add_assoc]
  rw [total, ← Array.foldl_toList, hfold, ids, List.map_cons, List.sum_cons, List.map_map]
  exact congrArg (q.fallback.nr + ·) (congrArg List.sum hd.symm)

lemma length_eq {q : DispatchQueues} (hq : q.Counted) (id : QueueId) :
    q.length id = (q.queue id).entries.length := hq id

lemma total_eq {q : DispatchQueues} (hq : q.Counted) : q.total = q.entries.length := by
  rw [total_eq_sum, entries, List.length_flatMap]
  exact congrArg List.sum (List.map_congr_left fun id _ => hq id)

/-! ## Queues without tasks -/

lemma make_eq_ok {n reserve : Nat} {q : DispatchQueues} (h : make n reserve = .ok q) :
    q = ⟨.empty, Array.replicate (min n maxDomains) .empty, reserve, 0⟩ := by
  unfold make at h
  split at h
  · cases h
  · cases h
    rfl

lemma queue_make {n reserve : Nat} {q : DispatchQueues} (h : make n reserve = .ok q)
    (id : QueueId) : q.queue id = .empty := by
  rw [make_eq_ok h]
  cases id with
  | fallback => rfl
  | domain d => by_cases hd : d < min n maxDomains <;> simp [queue, hd]

lemma counted_make {n reserve : Nat} {q : DispatchQueues} (h : make n reserve = .ok q) :
    q.Counted := by
  intro id
  rw [queue_make h]
  exact DispatchQueue.counted_ofHeap _

lemma entries_make {n reserve : Nat} {q : DispatchQueues} (h : make n reserve = .ok q) :
    q.entries = [] := by
  rw [entries, List.flatMap_eq_nil_iff]
  intro id _
  rw [queue_make h]
  rfl

end DispatchQueues

end CoreSteer
