import CoreSteer.Dispatch.DrainOrder
import CoreSteer.Proofs.Dispatch.Entries
import CoreSteer.Proofs.Topology.Faultless
import Mathlib.Data.List.Nodup
/-!
# A core looks at every queue once

The queues that a core looks at are all queues there are, each of them once, from that of its own
domain to the fallback queue.  So a core that finds nothing to run leaves nobody behind; only a
core that does not exist looks at the fallback queue alone.
-/
namespace CoreSteer

lemma nodup_eraseDups {α : Type} [BEq α] [LawfulBEq α] (xs : List α) : xs.eraseDups.Nodup := by
  induction h : xs.length using Nat.strongRecOn generalizing xs with
  | ind n ih =>
    cases xs with
    | nil => exact List.nodup_nil
    | cons x xs =>
      rw [List.eraseDups_cons, List.nodup_cons]
      refine ⟨by simp [List.mem_eraseDups], ih _ ?_ _ rfl⟩
      have := List.length_filter_le (fun b => !b == x) xs
      rw [← h, List.length_cons]
      omega

variable {t : Topology} {cpu : Nat} {core : CoreDesc} {id : QueueId}

lemma QueueId.ofDomain_of_lt {d : Nat} (h : d < maxDomains) : ofDomain d = domain d :=
  if_neg (Nat.not_le.2 h)

/-- The candidates are the queues of the domains. -/
lemma mem_drainCandidates (h : t.core? cpu = some core) :
    id ∈ drainCandidates t core ↔ ∃ d < t.nrDomains, id = .domain d := by
  have hmin : min t.nrDomains maxDomains = t.nrDomains := Nat.min_eq_left t.nrDomains_le
  have hlow : t.lowLatencyDomain < maxDomains :=
    Nat.lt_of_lt_of_le t.lowLatencyDomain_lt t.nrDomains_le
  rw [drainCandidates, hmin, QueueId.ofDomain_of_lt (t.domain_lt_maxDomains h),
    QueueId.ofDomain_of_lt hlow, List.mem_cons, List.mem_append]
  constructor
  · -- its own domain, the low-latency domain and all others are domains of the topology
    rintro (rfl | hm | hm)
    · exact ⟨_, t.domain_lt h, rfl⟩
    · split at hm
      · exact ⟨_, t.lowLatencyDomain_lt, List.mem_singleton.1 hm⟩
      · cases hm
    · obtain ⟨d, hd, rfl⟩ := List.mem_map.1 hm
      exact ⟨d, List.mem_range.1 hd, rfl⟩
  · rintro ⟨d, hd, rfl⟩
    exact .inr (.inr (List.mem_map.2 ⟨d, List.mem_range.2 hd, rfl⟩))

/-- A core looks at the fallback queue after all others. -/
lemma drainOrder_eq (h : t.core? cpu = some core) :
    drainOrder t cpu = (drainCandidates t core).eraseDups ++ [.fallback] := by
  have hnew : QueueId.fallback ∉ drainCandidates t core := by
    rw [mem_drainCandidates h]
    rintro ⟨d, -, hd⟩
    cases hd
  have hremove : [QueueId.fallback].removeAll (drainCandidates t core) = [.fallback] := by
    simp [List.removeAll, hnew]
  simp only [drainOrder, h]
  rw [List.eraseDups_append, hremove]
  rfl

lemma nodup_drainOrder (t : Topology) (cpu : Nat) : (drainOrder t cpu).Nodup := by
  unfold drainOrder
  split
  · exact nodup_eraseDups _
  · simp

lemma mem_drainOrder (h : t.core? cpu = some core) :
    id ∈ drainOrder t cpu ↔ id = .fallback ∨ ∃ d < t.nrDomains, id = .domain d := by
  rw [drainOrder_eq h, List.mem_append, List.mem_eraseDups, mem_drainCandidates h,
    List.mem_singleton, or_comm]

lemma head?_drainOrder (h : t.core? cpu = some core) :
    (drainOrder t cpu).head? = some (.domain core.domain) := by
  simp only [drainOrder, h]
  rw [drainCandidates, List.cons_append, List.eraseDups_cons, List.head?_cons,
    QueueId.ofDomain_of_lt (t.domain_lt_maxDomains h)]

lemma getLast?_drainOrder (t : Topology) (cpu : Nat) :
    (drainOrder t cpu).getLast? = some .fallback := by
  cases h : t.core? cpu with
  | none =>
    simp only [drainOrder, h]
    rfl
  | some core => rw [drainOrder_eq h, List.getLast?_concat]

/-- A core of the machine looks at one queue for each domain, and at the fallback queue. -/
lemma length_drainOrder (h : t.core? cpu = some core) :
    (drainOrder t cpu).length = t.nrDomains + 1 := by
  have hn : (QueueId.fallback :: (List.range t.nrDomains).map .domain).Nodup := by
    refine List.nodup_cons.2 ⟨by simp, List.Nodup.map ?_ List.nodup_range⟩
    intro a b hab
    exact QueueId.domain.inj hab
  have hperm : (drainOrder t cpu).Perm (.fallback :: (List.range t.nrDomains).map .domain) := by
    refine (List.perm_ext_iff_of_nodup (nodup_drainOrder t cpu) hn).2 fun id => ?_
    rw [mem_drainOrder h]
    simp [eq_comm]
  simpa using hperm.length_eq

/-- No core looks at more queues than there is room for in a list of them. -/
lemma length_drainOrder_le (t : Topology) (cpu : Nat) :
    (drainOrder t cpu).length ≤ maxDomains + 2 := by
  cases h : t.core? cpu with
  | none =>
    simp only [drainOrder, h]
    exact Nat.le_add_left _ _
  | some core =>
    have hle := t.nrDomains_le
    rw [length_drainOrder h]
    omega

namespace DispatchQueues

/-- A core of the machine finds nothing exactly when nobody waits. -/
lemma popFirst?_drainOrder_eq_none_iff {q : DispatchQueues} (hq : q.Counted)
    (hd : q.domains.size = t.nrDomains) (h : t.core? cpu = some core) :
    q.popFirst? (drainOrder t cpu) = none ↔ q.total = 0 := by
  have hids : ∀ id, id ∈ drainOrder t cpu ↔ id ∈ q.ids := by
    intro id
    rw [mem_drainOrder h, ids, hd]
    simp [eq_comm]
  rw [popFirst?_eq_none_iff, total_eq hq, List.length_eq_zero_iff, entries,
    List.flatMap_eq_nil_iff]
  constructor
  · intro hnone id hid
    exact (pop?_eq_none_iff hq).1 (hnone id ((hids id).2 hid))
  · intro hnil id hid
    exact (pop?_eq_none_iff hq).2 (hnil id ((hids id).1 hid))

/-- A core that does not exist finds nothing exactly when the fallback queue is empty. -/
lemma popFirst?_drainOrder_of_no_core {q : DispatchQueues} (hq : q.Counted)
    (h : t.core? cpu = none) :
    q.popFirst? (drainOrder t cpu) = none ↔ q.length .fallback = 0 := by
  simp only [drainOrder, h]
  rw [popFirst?_eq_none_iff, List.forall_mem_singleton, pop?_eq_none_iff hq, length_eq hq,
    List.length_eq_zero_iff]

/-! ## Queues that suit a machine -/

/-- The dispatch queues are in order, and they are those for a machine. -/
structure Suits (t : Topology) (q : DispatchQueues) : Prop where
  /-- Each queue says how many tasks it holds. -/
  counted : q.Counted
  /-- Each domain has a queue. -/
  nrDomains : q.domains.size = t.nrDomains

namespace Suits

variable {q : DispatchQueues}

lemma insert (h : q.Suits t) (id : QueueId) (pid slice vtime : Nat) :
    (q.insert id pid slice vtime).Suits t :=
  ⟨counted_insert h.counted _ _ _ _, (size_insert _ _ _ _ _).trans h.nrDomains⟩

lemma remove (h : q.Suits t) (pid : Nat) : (q.remove pid).Suits t :=
  ⟨counted_remove _ _, (size_remove _ _).trans h.nrDomains⟩

lemma of_pop? (h : q.Suits t) {id : QueueId} {w : Waiting} {q' : DispatchQueues}
    (hp : q.pop? id = some (w, q')) : q'.Suits t :=
  ⟨counted_of_pop? h.counted hp, (size_of_pop? hp).trans h.nrDomains⟩

/-- A core of the machine finds nothing exactly when the queues have no entries. -/
lemma entries_eq_nil_iff (h : q.Suits t) {core : CoreDesc} (hc : t.core? cpu = some core) :
    q.popFirst? (drainOrder t cpu) = none ↔ q.entries = [] := by
  rw [popFirst?_drainOrder_eq_none_iff h.counted h.nrDomains hc, total_eq h.counted,
    List.length_eq_zero_iff]

end Suits

lemma suits_make {reserve : Nat} {q : DispatchQueues} (h : make t.nrDomains reserve = .ok q) :
    q.Suits t := by
  refine ⟨counted_make h, ?_⟩
  rw [make_eq_ok h, Array.size_replicate]
  exact Nat.min_eq_left t.nrDomains_le

end DispatchQueues

end CoreSteer
