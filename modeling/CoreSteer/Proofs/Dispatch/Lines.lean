import CoreSteer.Proofs.Dispatch.Entries
import Mathlib.Data.List.Perm.Subperm
/-!
# Dispatch queues are lines

A line is a list of tasks in the order of their turns.  Whoever comes stands behind all tasks whose
key is not higher, the first in the line is served, and removing a task leaves all others in their
places.  The dispatch queues, which are heaps with counts beside them, answer every sequence of
requests as such lines do.
-/
namespace CoreSteer

/-- The first task has its turn before the second: its key is lower, or it is the same and the
first task came earlier. -/
def Waiting.Before (a b : Waiting) : Prop :=
  a.vtime < b.vtime ∨ (a.vtime = b.vtime ∧ a.arrival < b.arrival)

/-- What may be asked of the dispatch queues. -/
inductive QueueRequest where
  /-- A task comes to a queue. -/
  | insert (id : QueueId) (pid slice vtime : Nat)
  /-- The first task of a queue is taken out. -/
  | pop (id : QueueId)
  /-- A task is taken out of all queues. -/
  | remove (pid : Nat)
deriving DecidableEq, Repr

/-- What the dispatch queues answer. -/
inductive QueueAnswer where
  /-- The task was put in a queue. -/
  | inserted
  /-- The task that was taken out of the queue, if there was one. -/
  | popped (w : Option Waiting)
  /-- Whether any queue held the task. -/
  | removed (found : Bool)
deriving DecidableEq, Repr

/-- The task that an answer hands out. -/
def QueueAnswer.handedOut? : QueueAnswer → Option Waiting
  | popped w => w
  | _ => none

/-- The tasks that come with a list of requests, where `n` tasks came before them. -/
def comersFrom : (n : Nat) → List QueueRequest → List Waiting
  | _, [] => []
  | n, .insert _ pid slice vtime :: rs => ⟨pid, vtime, slice, n⟩ :: comersFrom (n + 1) rs
  | n, .pop _ :: rs => comersFrom n rs
  | n, .remove _ :: rs => comersFrom n rs

namespace DispatchQueues

/-- Answer a request. -/
def serve (q : DispatchQueues) : QueueRequest → QueueAnswer × DispatchQueues
  | .insert id pid slice vtime => (.inserted, q.insert id pid slice vtime)
  | .pop id =>
    match q.pop? id with
    | some (w, q') => (.popped (some w), q')
    | none => (.popped none, q)
  | .remove pid => (.removed (q.holds pid), q.remove pid)

/-- Answer requests in order. -/
def serveAll (q : DispatchQueues) : List QueueRequest → List QueueAnswer × DispatchQueues
  | [] => ([], q)
  | r :: rs => ((q.serve r).1 :: ((q.serve r).2.serveAll rs).1, ((q.serve r).2.serveAll rs).2)

end DispatchQueues

/-! ## Lines -/

/-- Tasks that stand in lines. -/
structure Lines where
  /-- The number of domains that have a line. -/
  nrDomains : Nat
  /-- Each line, in the order of turns. -/
  line : QueueId → List Waiting
  /-- How many tasks have come, to any line. -/
  arrivals : Nat

namespace Lines

/-- Lines without tasks. -/
def empty (nrDomains : Nat) : Lines := ⟨nrDomains, fun _ => [], 0⟩

/-- The line that a name stands for: the fallback line where a domain has none. -/
def standsFor (l : Lines) : QueueId → QueueId
  | .fallback => .fallback
  | .domain d => if d < l.nrDomains then .domain d else .fallback

/-- The names of all lines that there are. -/
def ids (l : Lines) : List QueueId := .fallback :: (List.range l.nrDomains).map .domain

/-- Put other tasks in a line. -/
def setLine (l : Lines) (id : QueueId) (ws : List Waiting) : Lines :=
  { l with line := fun j => if j = l.standsFor id then ws else l.line j }

/-- Stand behind all tasks whose key is not higher. -/
def stand (w : Waiting) : List Waiting → List Waiting
  | [] => [w]
  | x :: xs => if x.vtime ≤ w.vtime then x :: stand w xs else w :: x :: xs

/-- Answer a request. -/
def serve (l : Lines) : QueueRequest → QueueAnswer × Lines
  | .insert id pid slice vtime =>
    (.inserted,
      { l.setLine id (stand ⟨pid, vtime, slice, l.arrivals⟩ (l.line (l.standsFor id))) with
        arrivals := l.arrivals + 1 })
  | .pop id =>
    match l.line (l.standsFor id) with
    | w :: ws => (.popped (some w), l.setLine id ws)
    | [] => (.popped none, l)
  | .remove pid =>
    (.removed (l.ids.any fun id => (l.line id).any (·.pid == pid)),
      { l with line := fun id => (l.line id).filter (·.pid != pid) })

/-- Answer requests in order. -/
def serveAll (l : Lines) : List QueueRequest → List QueueAnswer × Lines
  | [] => ([], l)
  | r :: rs => ((l.serve r).1 :: ((l.serve r).2.serveAll rs).1, ((l.serve r).2.serveAll rs).2)

/-- The number of tasks in a line. -/
def length (l : Lines) (id : QueueId) : Nat := (l.line (l.standsFor id)).length

/-- The number of tasks in all lines. -/
def total (l : Lines) : Nat := (l.ids.map fun id => (l.line id).length).sum

/-! ## Standing in a line -/

lemma stand_perm (w : Waiting) (ws : List Waiting) : (stand w ws).Perm (w :: ws) := by
  induction ws with
  | nil => exact .refl _
  | cons x ws ih =>
    unfold stand
    split
    · exact (ih.cons x).trans (.swap w x ws)
    · exact .refl _

/-- Whoever comes last to a line that is in order leaves it in order. -/
lemma pairwise_stand {w : Waiting} {ws : List Waiting} (h : ws.Pairwise Waiting.Before)
    (hw : ∀ x ∈ ws, x.arrival < w.arrival) : (stand w ws).Pairwise Waiting.Before := by
  induction ws with
  | nil => exact List.pairwise_singleton _ _
  | cons x ws ih =>
    obtain ⟨hx, hws⟩ := List.pairwise_cons.1 h
    have hxw := hw x List.mem_cons_self
    unfold stand
    split
    -- `w` goes on behind `x`: it has no lower key, and it came later
    · next hle =>
      refine List.pairwise_cons.2
        ⟨fun y hy => ?_, ih hws fun y hy => hw y (List.mem_cons_of_mem _ hy)⟩
      rcases List.mem_cons.1 ((stand_perm w ws).mem_iff.1 hy) with rfl | hy
      · unfold Waiting.Before
        omega
      · exact hx y hy
    -- `w` stands here: its key is lower than that of `x`, and so than all keys after it
    · next hlt =>
      refine List.pairwise_cons.2 ⟨fun y hy => ?_, h⟩
      have hwx : w.vtime < x.vtime := Nat.lt_of_not_le hlt
      rcases List.mem_cons.1 hy with rfl | hy
      · exact .inl hwx
      · rcases hx y hy with hlt | ⟨heq, -⟩
        · exact .inl (Nat.lt_trans hwx hlt)
        · exact .inl (heq ▸ hwx)

/-- In a line that is in order, whoever is not behind anybody is the first. -/
lemma eq_of_le_all {v w : Waiting} {ws : List Waiting} (h : (v :: ws).Pairwise Waiting.Before)
    (hw : w ∈ v :: ws) (hle : w ≤ v) : w = v := by
  rcases List.mem_cons.1 hw with rfl | hw
  · rfl
  · have hvw : Waiting.Before v w := (List.pairwise_cons.1 h).1 w hw
    rw [Waiting.le_def] at hle
    unfold Waiting.Before at hvw
    omega

/-! ## The dispatch queues as lines -/

/-- The lines tell what the dispatch queues hold, and in which order it will be served. -/
structure Describes (l : Lines) (q : DispatchQueues) : Prop where
  /-- There is a line for each queue. -/
  nrDomains : l.nrDomains = q.domains.size
  /-- As many tasks have come to both. -/
  arrivals : l.arrivals = q.arrivals
  /-- Each line has the tasks of its queue. -/
  perm : ∀ id, (q.queue id).entries.Perm (l.line (l.standsFor id))
  /-- Each line is in the order of turns. -/
  ordered : ∀ id, (l.line id).Pairwise Waiting.Before
  /-- Nobody in a line is still to come. -/
  early : ∀ id, ∀ w ∈ l.line id, w.arrival < l.arrivals
  /-- Each queue says how many tasks it holds. -/
  counted : q.Counted

namespace Describes

variable {l : Lines} {q : DispatchQueues}

lemma standsFor_eq (h : l.Describes q) (id : QueueId) : q.standsFor id = l.standsFor id := by
  cases id with
  | fallback => rfl
  | domain d => rw [DispatchQueues.standsFor, Lines.standsFor, h.nrDomains]

lemma ids_eq (h : l.Describes q) : q.ids = l.ids := by
  rw [DispatchQueues.ids, Lines.ids, h.nrDomains]

lemma length_eq (h : l.Describes q) (id : QueueId) : q.length id = l.length id := by
  rw [DispatchQueues.length_eq h.counted]
  exact (h.perm id).length_eq

lemma total_eq (h : l.Describes q) : q.total = l.total := by
  rw [DispatchQueues.total_eq_sum, total, h.ids_eq]
  refine congrArg List.sum (List.map_congr_left fun id hid => ?_)
  have hs : l.standsFor id = id := by
    rw [← h.standsFor_eq]
    exact DispatchQueues.standsFor_of_mem_ids (h.ids_eq ▸ hid)
  have := h.length_eq id
  rwa [length, hs] at this

/-- The first in a line is the least in its queue. -/
lemma pop?_eq_some (h : l.Describes q) {id : QueueId} {v : Waiting} {ws : List Waiting}
    (hl : l.line (l.standsFor id) = v :: ws) :
    ∃ x, (q.queue id).pop? = some (v, x) ∧ x.entries.Perm ws := by
  have hp := h.perm id
  rw [hl] at hp
  have hne : (q.queue id).pop? ≠ none := by
    rw [Ne, DispatchQueue.pop?_eq_none_iff (h.counted id)]
    intro he
    rw [he] at hp
    simpa using hp.length_eq
  obtain ⟨⟨w, x⟩, hx⟩ := Option.ne_none_iff_exists'.1 hne
  have hperm := DispatchQueue.entries_of_pop? hx
  -- what the queue gives is in the line, and not behind the first one there
  have hw : w ∈ v :: ws := hp.subset (hperm.symm.subset List.mem_cons_self)
  have hle : w ≤ v := DispatchQueue.le_of_pop? hx v (hp.symm.subset List.mem_cons_self)
  have hord : (v :: ws).Pairwise Waiting.Before := hl ▸ h.ordered _
  obtain rfl := eq_of_le_all hord hw hle
  exact ⟨x, hx, (hperm.symm.trans hp).cons_inv⟩

/-- More tasks may have come than stand in the lines. -/
lemma withArrivals (h : l.Describes q) {n : Nat} (hn : l.arrivals ≤ n) :
    { l with arrivals := n }.Describes { q with arrivals := n } where
  nrDomains := h.nrDomains
  arrivals := rfl
  perm id := h.perm id
  ordered := h.ordered
  early id w hw := Nat.lt_of_lt_of_le (h.early id w hw) hn
  counted id := h.counted id

/-- Putting the tasks of a queue in its line keeps up the description. -/
lemma setLine (h : l.Describes q) (id : QueueId) {x : DispatchQueue} {ws : List Waiting}
    (hx : x.entries.Perm ws) (hc : x.Counted) (ho : ws.Pairwise Waiting.Before)
    (he : ∀ w ∈ ws, w.arrival < l.arrivals) :
    (l.setLine id ws).Describes (q.setQueue id x) where
  nrDomains := h.nrDomains.trans (q.size_setQueue id x).symm
  arrivals := h.arrivals.trans (q.arrivals_setQueue id x).symm
  perm j := by
    rw [DispatchQueues.queue_setQueue, h.standsFor_eq, h.standsFor_eq]
    show List.Perm _ (if l.standsFor j = l.standsFor id then ws else l.line (l.standsFor j))
    split
    · exact hx
    · exact h.perm j
  ordered j := by
    show List.Pairwise _ (if j = l.standsFor id then ws else l.line j)
    split
    · exact ho
    · exact h.ordered j
  early j := by
    show ∀ w ∈ (if j = l.standsFor id then ws else l.line j), _
    split
    · exact he
    · exact h.early j
  counted j := by
    rw [DispatchQueues.queue_setQueue]
    split
    · exact hc
    · exact h.counted j

/-! ## Answering requests -/

lemma serve_insert (h : l.Describes q) (id : QueueId) (pid slice vtime : Nat) :
    (l.serve (.insert id pid slice vtime)).2.Describes
      (q.serve (.insert id pid slice vtime)).2 := by
  have hearly := h.early (l.standsFor id)
  have hperm : ((q.queue id).push ⟨pid, vtime, slice, q.arrivals⟩).entries.Perm
      (stand ⟨pid, vtime, slice, l.arrivals⟩ (l.line (l.standsFor id))) := by
    rw [← h.arrivals]
    exact (DispatchQueue.entries_push _ _).trans
      (((h.perm id).cons _).trans (stand_perm _ _).symm)
  have hins := (h.withArrivals (Nat.le_succ l.arrivals)).setLine id hperm
    (DispatchQueue.counted_ofHeap _) (pairwise_stand (h.ordered _) hearly) fun w hw => by
      rcases List.mem_cons.1 ((stand_perm _ _).mem_iff.1 hw) with rfl | hw
      · exact Nat.lt_succ_self _
      · exact Nat.lt_succ_of_lt (hearly w hw)
  rw [DispatchQueues.setQueue_withArrivals] at hins
  show Describes _ { q.setQueue id _ with arrivals := q.arrivals + 1 }
  rw [← h.arrivals] at hins ⊢
  exact hins

lemma serve_pop (h : l.Describes q) (id : QueueId) :
    (q.serve (.pop id)).1 = (l.serve (.pop id)).1 ∧
      (l.serve (.pop id)).2.Describes (q.serve (.pop id)).2 := by
  simp only [DispatchQueues.serve, Lines.serve]
  rcases hl : l.line (l.standsFor id) with _ | ⟨v, ws⟩
  · have hnone : q.pop? id = none := by
      rw [DispatchQueues.pop?_eq_none_iff h.counted]
      exact (hl ▸ h.perm id).eq_nil
    rw [hnone]
    exact ⟨rfl, h⟩
  · obtain ⟨x, hx, hxs⟩ := h.pop?_eq_some hl
    have hpop : q.pop? id = some (v, q.setQueue id x) := by
      rw [DispatchQueues.pop?, hx]
    rw [hpop]
    have ho := h.ordered (l.standsFor id)
    have he := h.early (l.standsFor id)
    rw [hl] at ho he
    exact ⟨rfl, h.setLine id hxs (DispatchQueue.counted_of_pop? hx) (List.pairwise_cons.1 ho).2
      fun w hw => he w (List.mem_cons_of_mem _ hw)⟩

lemma holds_eq (h : l.Describes q) (pid : Nat) :
    q.holds pid = l.ids.any fun id => (l.line id).any (·.pid == pid) := by
  rw [Bool.eq_iff_iff, DispatchQueues.holds_iff, List.any_eq_true]
  simp only [List.any_eq_true, beq_iff_eq]
  constructor
  · rintro ⟨w, hw, hp⟩
    obtain ⟨id, hw⟩ := DispatchQueues.mem_entries.1 hw
    refine ⟨l.standsFor id, ?_, w, (h.perm id).mem_iff.1 hw, hp⟩
    rw [← h.ids_eq, ← h.standsFor_eq]
    exact q.standsFor_mem_ids id
  · rintro ⟨id, hid, w, hw, hp⟩
    refine ⟨w, DispatchQueues.mem_entries.2 ⟨id, (h.perm id).mem_iff.2 ?_⟩, hp⟩
    rw [← h.standsFor_eq, DispatchQueues.standsFor_of_mem_ids (h.ids_eq ▸ hid)]
    exact hw

lemma serve_remove (h : l.Describes q) (pid : Nat) :
    (l.serve (.remove pid)).2.Describes (q.serve (.remove pid)).2 where
  nrDomains := h.nrDomains.trans (q.size_remove pid).symm
  arrivals := h.arrivals
  perm id := by
    show ((q.remove pid).queue id).entries.Perm ((l.line (l.standsFor id)).filter (·.pid != pid))
    rw [DispatchQueues.queue_remove]
    exact (DispatchQueue.entries_drop _ _).trans ((h.perm id).filter _)
  ordered id := (h.ordered id).filter _
  early id w hw := h.early id w (List.mem_filter.1 hw).1
  counted := q.counted_remove pid

/-- One request: the queues answer as the lines that describe them do, and are described by the
lines after it. -/
lemma serve (h : l.Describes q) (r : QueueRequest) :
    (q.serve r).1 = (l.serve r).1 ∧ (l.serve r).2.Describes (q.serve r).2 := by
  cases r with
  | insert id pid slice vtime => exact ⟨rfl, h.serve_insert id pid slice vtime⟩
  | pop id => exact h.serve_pop id
  | remove pid => exact ⟨congrArg QueueAnswer.removed (h.holds_eq pid), h.serve_remove pid⟩

lemma serveAll (h : l.Describes q) (rs : List QueueRequest) :
    (q.serveAll rs).1 = (l.serveAll rs).1 ∧ (l.serveAll rs).2.Describes (q.serveAll rs).2 := by
  induction rs generalizing l q with
  | nil => exact ⟨rfl, h⟩
  | cons r rs ih =>
    obtain ⟨ha, hs⟩ := h.serve r
    obtain ⟨has, hss⟩ := ih hs
    refine ⟨?_, hss⟩
    rw [DispatchQueues.serveAll, Lines.serveAll, ha, has]

end Describes

/-- Queues without tasks are described by lines without tasks. -/
lemma describes_make {n reserve : Nat} {q : DispatchQueues}
    (h : DispatchQueues.make n reserve = .ok q) : (empty (min n maxDomains)).Describes q where
  nrDomains := by simp [DispatchQueues.make_eq_ok h, empty]
  arrivals := by simp [DispatchQueues.make_eq_ok h, empty]
  perm id := by
    rw [DispatchQueues.queue_make h]
    exact .refl _
  ordered _ := .nil
  early _ w hw := by cases hw
  counted := DispatchQueues.counted_make h

end Lines

/-! ## Who is served -/

namespace DispatchQueues

/-- One request: all tasks that were there or came are handed out, or gone, or still there. -/
lemma serve_balance (q : DispatchQueues) (r : QueueRequest) (rs : List QueueRequest) :
    ∃ gone, (comersFrom q.arrivals (r :: rs) ++ q.entries).Perm
      ((q.serve r).1.handedOut?.toList ++ gone ++
        (comersFrom (q.serve r).2.arrivals rs ++ (q.serve r).2.entries)) := by
  cases r with
  | insert id pid slice vtime =>
    refine ⟨[], ?_⟩
    exact List.perm_middle.symm.trans
      ((q.entries_insert id pid slice vtime).symm.append_left _)
  | pop id =>
    refine ⟨[], ?_⟩
    rcases hp : q.pop? id with _ | ⟨w, q'⟩
    · simp [serve, hp, comersFrom, QueueAnswer.handedOut?]
    · simp only [serve, hp, comersFrom, QueueAnswer.handedOut?, arrivals_of_pop? hp]
      exact ((entries_of_pop? hp).append_left _).trans List.perm_middle
  | remove pid =>
    refine ⟨q.entries.filter (·.pid == pid), ?_⟩
    exact ((q.entries_split pid).append_left _).trans (List.perm_append_comm_assoc _ _ _)

/-- All tasks that were there or came are handed out, or gone, or still there. -/
lemma serveAll_balance (q : DispatchQueues) (rs : List QueueRequest) :
    ∃ gone, (comersFrom q.arrivals rs ++ q.entries).Perm
      ((q.serveAll rs).1.filterMap QueueAnswer.handedOut? ++ gone ++ (q.serveAll rs).2.entries) := by
  induction rs generalizing q with
  | nil => exact ⟨[], .refl _⟩
  | cons r rs ih =>
    obtain ⟨gone, h⟩ := q.serve_balance r rs
    obtain ⟨later, hs⟩ := ih (q.serve r).2
    refine ⟨gone ++ later, h.trans ((hs.append_left _).trans ?_)⟩
    have hout : (q.serveAll (r :: rs)).1.filterMap QueueAnswer.handedOut? =
        (q.serve r).1.handedOut?.toList ++
          ((q.serve r).2.serveAll rs).1.filterMap QueueAnswer.handedOut? := by
      rw [serveAll, List.filterMap_cons]
      cases (q.serve r).1.handedOut? <;> rfl
    rw [hout]
    simp only [List.append_assoc]
    exact (List.perm_append_comm_assoc _ _ _).append_left _

end DispatchQueues

/-- Tasks that come one after the other are told apart by their arrivals. -/
lemma pairwise_comersFrom (n : Nat) (rs : List QueueRequest) :
    (∀ w ∈ comersFrom n rs, n ≤ w.arrival) ∧
      (comersFrom n rs).Pairwise (fun v w => v.arrival < w.arrival) := by
  induction rs generalizing n with
  | nil => exact ⟨by simp [comersFrom], .nil⟩
  | cons r rs ih =>
    cases r with
    | insert id pid slice vtime =>
      obtain ⟨hle, hlt⟩ := ih (n + 1)
      refine ⟨fun w hw => ?_, List.pairwise_cons.2 ⟨fun w hw => hle w hw, hlt⟩⟩
      rcases List.mem_cons.1 hw with rfl | hw
      · exact Nat.le_refl _
      · exact Nat.le_of_succ_le (hle w hw)
    | pop id => exact ih n
    | remove pid => exact ih n

lemma nodup_comersFrom (n : Nat) (rs : List QueueRequest) : (comersFrom n rs).Nodup := by
  rw [List.nodup_iff_pairwise_ne]
  refine (pairwise_comersFrom n rs).2.imp ?_
  rintro v w hlt rfl
  exact Nat.lt_irrefl _ hlt

namespace DispatchQueues

/-- Nobody is handed out twice, and whoever is handed out has come and has not changed. -/
lemma handedOut_once {n reserve : Nat} {q : DispatchQueues} (h : make n reserve = .ok q)
    (rs : List QueueRequest) :
    ((q.serveAll rs).1.filterMap QueueAnswer.handedOut?).Nodup ∧
      ∀ w ∈ (q.serveAll rs).1.filterMap QueueAnswer.handedOut?, w ∈ comersFrom 0 rs := by
  obtain ⟨gone, hb⟩ := q.serveAll_balance rs
  have harr : q.arrivals = 0 := by rw [make_eq_ok h]
  rw [entries_make h, List.append_nil, harr, List.append_assoc] at hb
  refine ⟨?_, fun w hw => ?_⟩
  · exact (List.nodup_append.1 (hb.nodup_iff.1 (nodup_comersFrom 0 rs))).1
  · exact hb.mem_iff.2 (List.mem_append_left _ hw)

/-- The dispatch queues are lines.  From the start on, whatever is asked, they answer as lines do
in which tasks stand in the order of their keys and, where keys are equal, in the order in which
they came; every length is the number of tasks in a line, and the total that in all lines; nobody
is handed out twice, and whoever is handed out came with the same id, key and slice. -/
theorem serveAll_as_lines {n reserve : Nat} {q : DispatchQueues} (h : make n reserve = .ok q)
    (rs : List QueueRequest) :
    (q.serveAll rs).1 = ((Lines.empty (min n maxDomains)).serveAll rs).1 ∧
      ((Lines.empty (min n maxDomains)).serveAll rs).2.Describes (q.serveAll rs).2 ∧
      (∀ id, (q.serveAll rs).2.length id =
        ((Lines.empty (min n maxDomains)).serveAll rs).2.length id) ∧
      (q.serveAll rs).2.total = ((Lines.empty (min n maxDomains)).serveAll rs).2.total ∧
      ((q.serveAll rs).1.filterMap QueueAnswer.handedOut?).Nodup ∧
      ∀ w ∈ (q.serveAll rs).1.filterMap QueueAnswer.handedOut?, w ∈ comersFrom 0 rs := by
  obtain ⟨hanswers, hdescribes⟩ := (Lines.describes_make h).serveAll rs
  obtain ⟨honce, hcame⟩ := handedOut_once h rs
  exact ⟨hanswers, hdescribes, hdescribes.length_eq, hdescribes.total_eq, honce, hcame⟩

/-- Requests with equal keys, a domain that has no queue, and a removal from two queues. -/
def mixedRequests : List QueueRequest := [
  .insert (.domain 0) 1 100 5000, .insert (.domain 0) 2 100 0, .insert (.domain 0) 3 100 500,
  .insert (.domain 0) 4 100 0, .insert (.domain 7) 3 200 9, .pop (.domain 0), .remove 3,
  .remove 3, .pop (.domain 0), .pop (.domain 0), .pop .fallback]

theorem serveAll_mixedRequests :
    make 2 16 = .ok ⟨.empty, #[.empty, .empty], 16, 0⟩ ∧
      (serveAll ⟨.empty, #[.empty, .empty], 16, 0⟩ mixedRequests).1 =
        [.inserted, .inserted, .inserted, .inserted, .inserted, .popped (some ⟨2, 0, 100, 1⟩),
          .removed true, .removed false, .popped (some ⟨4, 0, 100, 3⟩),
          .popped (some ⟨1, 5000, 100, 0⟩), .popped none] := by
  have h : make 2 16 = .ok ⟨.empty, #[.empty, .empty], 16, 0⟩ := rfl
  exact ⟨h, (serveAll_as_lines h mixedRequests).1.trans rfl⟩

end DispatchQueues

end CoreSteer
