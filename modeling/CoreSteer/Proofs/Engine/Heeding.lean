import CoreSteer.Proofs.Dispatch.Drain
import CoreSteer.Proofs.Engine.Interrupting
import CoreSteer.Proofs.Engine.Precedence
import CoreSteer.Proofs.Engine.Shares
/-!
# A core that is interrupted finds the reason

A core is interrupted for a gaming task only, and is one of the low-latency domain.  If the task comes
from a core that exists, it waits in the queue of that domain, with the lowest key that there is; and
a core looks at the queue of its own domain before all others.  So as long as the task waits, the core
that was interrupted for it finds a task with that key, and one that did not come after it.

What may happen to the queues in one call is said once (`Engine.queues_after_cases`): that entries
stay and that queues count right follows from it.
-/
namespace CoreSteer

namespace DispatchQueues

variable {q : DispatchQueues} {w : Waiting} {id : QueueId}

lemma mem_queue_insert_self (q : DispatchQueues) (id : QueueId) (pid slice vtime : Nat) :
    ⟨pid, vtime, slice, q.arrivals⟩ ∈ ((q.insert id pid slice vtime).queue id).entries := by
  rw [queue_insert, if_pos rfl]
  exact (DispatchQueue.entries_push _ _).mem_iff.2 List.mem_cons_self

/-- Whoever waits goes on to wait when somebody comes. -/
lemma mem_queue_insert (h : w ∈ (q.queue id).entries) (j : QueueId) (pid slice vtime : Nat) :
    w ∈ ((q.insert j pid slice vtime).queue id).entries := by
  rw [queue_insert]
  split
  · next hsame =>
    rw [← queue_standsFor, ← hsame, queue_standsFor]
    exact (DispatchQueue.entries_push _ _).mem_iff.2 (List.mem_cons_of_mem _ h)
  · exact h

/-- Whoever waits goes on to wait when another task is taken out. -/
lemma mem_queue_remove (h : w ∈ (q.queue id).entries) {pid : Nat} (hne : w.pid ≠ pid) :
    w ∈ ((q.remove pid).queue id).entries := by
  rw [queue_remove]
  refine (DispatchQueue.entries_drop _ _).mem_iff.2 (List.mem_filter.2 ⟨h, ?_⟩)
  simpa using hne

/-- Whoever looks at a queue in which somebody waits finds a task there that comes no later. -/
lemma exists_pop?_le (hq : q.Counted) (h : w ∈ (q.queue id).entries) :
    ∃ v q', q.pop? id = some (v, q') ∧ v ≤ w := by
  rcases hp : q.pop? id with _ | ⟨v, q'⟩
  · rw [(pop?_eq_none_iff hq).1 hp] at h
    cases h
  · obtain ⟨x, hx, -⟩ := pop?_eq_some hp
    exact ⟨v, q', rfl, DispatchQueue.le_of_pop? hx w h⟩

end DispatchQueues

/-- An entry whose number is one of the first part of a history goes back to that part. -/
lemma Explains.entries_of_lt {came late : List (Nat × Standing)} {q : DispatchQueues} {w : Waiting}
    (h : Explains (came ++ late) q) (hw : w ∈ q.entries) (hlt : w.arrival < came.length) :
    ∃ s, came[w.arrival]? = some (w.pid, s) := by
  obtain ⟨s, hs, -⟩ := h.entries w hw
  rw [List.getElem?_append_left hlt] at hs
  exact ⟨s, hs⟩

namespace Engine

variable {t : Topology} {e : Engine} {c : EngineCall} {w : Waiting} {id : QueueId} {task : Task}

/-! ## What happens to the queues -/

/-- In one call the queues stay as they are, or a task comes to one of them, or the first task of one
is handed out, or a task that is gone is taken out of all. -/
lemma queues_after_cases (e : Engine) (c : EngineCall) :
    (e.after c).queues = e.queues ∨
      (∃ task, c = .enqueue task ∧ (e.after c).queues =
        e.queues.insert (e.queueOf task) task.pid e.tunables.load.slice (e.keyFor task)) ∨
      (∃ cpu id w, c = .dispatch cpu ∧ e.queues.pop? id = some (w, (e.after c).queues)) ∨
      ∃ pid, c = .taskExit pid ∧ (e.after c).queues = e.queues.remove pid := by
  cases c with
  | selectCpu task prev =>
    obtain ⟨_, _, -, -, ho⟩ := e.outcome_selectCpu task prev
    exact .inl ho.queues_eq
  | enqueue task => exact .inr (.inl ⟨task, rfl, e.queues_enqueue_eq task⟩)
  | dispatch cpu =>
    rcases hd : e.dispatch cpu with ⟨_ | w, e'⟩
    · have hnone : (e.dispatch cpu).1 = none := by rw [hd]
      exact .inl (e.outcome_dispatch_none (e.dispatch_eq_none_iff_popFirst?.1 hnone)).2.queues_eq
    · obtain ⟨id, -, hpop⟩ := pop?_of_dispatch hd
      refine .inr (.inr (.inl ⟨cpu, id, w, rfl, ?_⟩))
      rw [after, hd]
      exact hpop
  | running task => exact .inl (e.outcome_running task).queues_eq
  | stopping task runnable => exact .inl (e.outcome_stopping task runnable).queues_eq
  | tick cpu => exact .inl (e.outcome_tick cpu).queues_eq
  | noteProfileMatch task => exact .inl (e.outcome_noteProfileMatch task).queues_eq
  | taskExit pid => exact .inr (.inr (.inr ⟨pid, rfl, (e.outcome_taskExit pid).queues_eq⟩))
  | exit | readEvents | settings | knowledge | platform => exact .inl rfl

/-- Queues that count right go on to do so. -/
lemma counted_after (h : e.queues.Counted) (c : EngineCall) : (e.after c).queues.Counted := by
  rcases e.queues_after_cases c with hq | ⟨task, -, hq⟩ | ⟨cpu, id, w, -, hpop⟩ | ⟨pid, -, hq⟩
  · rw [hq]
    exact h
  · rw [hq]
    exact DispatchQueues.counted_insert h _ _ _ _
  · exact DispatchQueues.counted_of_pop? h hpop
  · rw [hq]
    exact DispatchQueues.counted_remove _ _

lemma counted_afterAll (h : e.queues.Counted) (cs : List EngineCall) :
    (e.afterAll cs).queues.Counted := by
  induction cs generalizing e with
  | nil => exact h
  | cons c cs ih => exact ih (counted_after h c)

/-- A task waits on where it is until a core calls for a task or the task is gone. -/
lemma mem_queue_after (h : w ∈ (e.queues.queue id).entries) (hdispatch : c.isDispatch = false)
    (hexit : c ≠ .taskExit w.pid) : w ∈ ((e.after c).queues.queue id).entries := by
  rcases e.queues_after_cases c with hq | ⟨task, -, hq⟩ | ⟨cpu, _, _, rfl, -⟩ | ⟨pid, rfl, hq⟩
  · rw [hq]
    exact h
  · rw [hq]
    exact DispatchQueues.mem_queue_insert h _ _ _ _
  · cases hdispatch
  · rw [hq]
    refine DispatchQueues.mem_queue_remove h ?_
    rintro rfl
    exact hexit rfl

lemma mem_queue_afterAll {cs : List EngineCall} (h : w ∈ (e.queues.queue id).entries)
    (hcs : ∀ c ∈ cs, c.isDispatch = false ∧ c ≠ .taskExit w.pid) :
    w ∈ ((e.afterAll cs).queues.queue id).entries := by
  induction cs generalizing e with
  | nil => exact h
  | cons c cs ih =>
    obtain ⟨⟨hdispatch, hexit⟩, hcs⟩ := List.forall_mem_cons.1 hcs
    exact ih (mem_queue_after h hdispatch hexit) hcs

/-! ## Calling for a task -/

/-- A core finds a task in the queue of its domain if one waits there, and one that comes no later. -/
lemma exists_dispatch_le {cpu d : Nat} (hq : e.queues.Counted)
    (hcpu : e.topology.domainOf? cpu = some d) (hw : w ∈ (e.queues.queue (.domain d)).entries) :
    ∃ v e', e.dispatch cpu = (some v, e') ∧ e.queues.pop? (.domain d) = some (v, e'.queues) ∧
      v ≤ w := by
  obtain ⟨v, queues, hpop, hle⟩ := DispatchQueues.exists_pop?_le hq hw
  obtain ⟨core, hcore, rfl⟩ := Option.map_eq_some_iff.1 hcpu
  obtain ⟨others, horder⟩ := List.head?_eq_some_iff.1 (head?_drainOrder hcore)
  have hfirst : e.queues.popFirst? (drainOrder e.topology cpu) = some (v, queues) := by
    rw [horder, DispatchQueues.popFirst?, hpop]
  obtain ⟨hfound, ho⟩ := e.outcome_dispatch_some hfirst
  refine ⟨v, (e.dispatch cpu).2, Prod.ext hfound rfl, ?_, hle⟩
  rw [ho.queues_eq]
  exact hpop

/-! ## Interrupting -/

namespace Consistent

/-- A core is interrupted for a gaming task only, and it is the one that gives way. -/
lemma of_kick (h : e.Consistent t) {sent : Array Kick} {k : Kick}
    (hsent : (e.enqueue task).host.kicks = e.host.kicks ++ sent) (hk : k ∈ sent) :
    TaskState.isGaming (e.task? task.pid) = true ∧ e.Yields t.lowLatencyDomain .gaming k.cpu := by
  have hsome : (e.enqueue task).host.kicks ≠ e.host.kicks := by
    intro hsame
    obtain rfl : sent = #[] := Array.append_right_eq_self.1 (hsent.symm.trans hsame)
    exact Array.not_mem_empty k hk
  rcases hgaming : TaskState.isGaming (e.task? task.pid)
  · exact absurd (kicks_enqueue_of_not_gaming h.sound hgaming).1 hsome
  · rcases hvictim : e.victim? t.lowLatencyDomain .gaming with _ | cpu
    · exact absurd ((h.enqueue_of_gaming hgaming).2 hvictim).1 hsome
    · have hkicks := ((h.enqueue_of_gaming hgaming).1 cpu hvictim).1
      rw [hsent, ← Array.append_singleton, Array.append_right_inj] at hkicks
      obtain rfl : k = ⟨cpu, { preempt := true }⟩ := by simpa [hkicks] using hk
      exact ⟨rfl, Machine.victim?_eq_some_iff.1 hvictim⟩

/-- A gaming task from a core that exists waits in the queue of the low-latency domain, with the
lowest key. -/
lemma queues_enqueue_of_gaming (h : e.Consistent t)
    (hgaming : TaskState.isGaming (e.task? task.pid) = true) (hcpu : (t.core? task.cpu).isSome) :
    (e.enqueue task).queues =
      e.queues.insert (.domain t.lowLatencyDomain) task.pid e.tunables.load.slice 0 := by
  obtain ⟨s, hs, hgaming⟩ := (Option.any_eq_true _ _).1 hgaming
  have hcomes := e.comesWith_of_task? task h.sound hs
  have hwants : s.flags.wantsLowLatency = true := by
    refine ((h.findings task.pid s.findings ?_).gaming hgaming).2
    rw [findings?, hs, Option.map_some]
  obtain ⟨core, hcore⟩ := Option.isSome_iff_exists.1 hcpu
  have hlow : t.lowLatencyDomain < maxDomains := t.lowLatencyDomain_lt.trans_le t.nrDomains_le
  have hqueue : e.queueOf task = .domain t.lowLatencyDomain := by
    simp only [queueOf, hcomes, Machine.queueFor, h.topology, Topology.domainOf?, hcore,
      Option.map_some, hwants, if_true]
    exact QueueId.ofDomain_of_lt hlow
  have hkey : e.keyFor task = 0 := by
    rw [e.keyFor_of_comesWith task hcomes, hgaming]
    rfl
  rw [queues_enqueue_eq, hqueue, hkey]

/-- As long as the task waits for which a core was interrupted, and no core has called for a task since
then, the core finds one in the queue of the low-latency domain that does not come after it. -/
lemma exists_dispatch_of_kick (h : e.Consistent t) (hq : e.queues.Counted)
    (hcpu : (t.core? task.cpu).isSome) {sent : Array Kick} {k : Kick}
    (hsent : (e.enqueue task).host.kicks = e.host.kicks ++ sent) (hk : k ∈ sent) :
    ⟨task.pid, 0, e.tunables.load.slice, e.queues.arrivals⟩ ∈
        ((e.enqueue task).queues.queue (.domain t.lowLatencyDomain)).entries ∧
      ∀ between e', (e.enqueue task).afterAll between = e' →
        (∀ c ∈ between, c.isDispatch = false ∧ c ≠ .taskExit task.pid) →
        ∃ w e'', e'.dispatch k.cpu = (some w, e'') ∧
          e'.queues.pop? (.domain t.lowLatencyDomain) = some (w, e''.queues) ∧
          w.vtime = 0 ∧ w.arrival ≤ e.queues.arrivals := by
  obtain ⟨hgaming, u, hyields, -⟩ := h.of_kick hsent hk
  have hentry : ⟨task.pid, 0, e.tunables.load.slice, e.queues.arrivals⟩ ∈
      ((e.enqueue task).queues.queue (.domain t.lowLatencyDomain)).entries := by
    rw [h.queues_enqueue_of_gaming hgaming hcpu]
    exact DispatchQueues.mem_queue_insert_self _ _ _ _ _
  refine ⟨hentry, fun between e' he' hbetween => ?_⟩
  subst he'
  have hdomain : ((e.enqueue task).afterAll between).topology.domainOf? k.cpu =
      some t.lowLatencyDomain := by
    rw [topology_afterAll, show (e.enqueue task).topology = e.topology from
      e.topology_after (.enqueue task)]
    exact hyields.inDomain
  obtain ⟨w, e'', hdispatch, hpop, hle⟩ :=
    exists_dispatch_le (counted_afterAll (counted_after hq (.enqueue task)) between) hdomain
      (mem_queue_afterAll hentry hbetween)
  -- no key is lower than that of the task
  have hle := Waiting.le_def.1 hle
  dsimp only at hle
  exact ⟨w, e'', hdispatch, hpop, by omega, by omega⟩

end Consistent

/-! ## Runs -/

lemma comers_append (e : Engine) (as bs : List EngineCall) :
    e.comers (as ++ bs) = e.comers as ++ (e.afterAll as).comers bs := by
  induction as generalizing e with
  | nil => rfl
  | cons c as ih =>
    rw [List.cons_append, comers, comers, ih, List.append_assoc]
    rfl

/-- No core is interrupted in vain.  From the start of an engine on, whatever happens to it and in
whatever order, suppose that a core is interrupted when a task is enqueued that comes from a core that
exists.  Then the task has a new entry in the queue of the low-latency domain, with the number that
follows those of all tasks enqueued before.  If the core that was interrupted is the next one that
calls for a task, at once or after anything else but that the task is gone, it finds one: the first of
that queue, whose key is zero, and which was enqueued no later than the task. -/
theorem no_kick_is_wasted (t : Topology) (config : EngineConfig) (tunables : TunablesCell)
    (hints : Hints) (host : Host) :
    ∃ e₀, start t config tunables hints host = .ok e₀ ∧
      ∀ calls e, e₀.afterAll calls = e → ∀ task sent, (t.core? task.cpu).isSome →
        (e.enqueue task).host.kicks = e.host.kicks ++ sent → ∀ k ∈ sent,
          ⟨task.pid, 0, e.tunables.load.slice, (e₀.comers calls).length⟩ ∈
              ((e.enqueue task).queues.queue (.domain t.lowLatencyDomain)).entries ∧
          ∀ between e', (e.enqueue task).afterAll between = e' →
            (∀ c ∈ between, c.isDispatch = false ∧ c ≠ .taskExit task.pid) →
            ∃ w e'', e'.dispatch k.cpu = (some w, e'') ∧
              e'.queues.pop? (.domain t.lowLatencyDomain) = some (w, e''.queues) ∧
              w.vtime = 0 ∧ w.arrival ≤ (e₀.comers calls).length ∧
              ∃ s, (e₀.comers (calls ++ [.enqueue task]))[w.arrival]? = some (w.pid, s) := by
  obtain ⟨queues, hqueues, hstart⟩ := exists_start t config tunables hints host
  refine ⟨_, hstart, fun calls e he task sent hcpu hsent k hk => ?_⟩
  have h := (Consistent.start t config tunables hints host queues).afterAll calls
  have hcounted := counted_afterAll (e := ⟨.make t config tunables hints host,
    .ofCapacity config.taskCapacity, queues, none⟩) (DispatchQueues.counted_make hqueues) calls
  have hexplains := fun cs => (Explains.make hqueues).afterAll (e := ⟨.make t config tunables hints
    host, .ofCapacity config.taskCapacity, queues, none⟩) cs
  simp only [List.nil_append] at hexplains
  generalize (⟨.make t config tunables hints host, .ofCapacity config.taskCapacity, queues,
    none⟩ : Engine) = e₀ at he h hcounted hexplains ⊢
  have harrivals := (hexplains calls).arrivals
  rw [he] at h hcounted harrivals
  obtain ⟨hentry, hfinds⟩ := h.exists_dispatch_of_kick hcounted hcpu hsent hk
  rw [harrivals] at hentry hfinds
  refine ⟨hentry, fun between e' he' hbetween => ?_⟩
  obtain ⟨w, e'', hdispatch, hpop, hkey, hle⟩ := hfinds between e' he' hbetween
  refine ⟨w, e'', hdispatch, hpop, hkey, hle, ?_⟩
  -- the whole history explains the entry, whose number is one of the part up to the task
  have hrun : e₀.afterAll (calls ++ [.enqueue task]) = e.enqueue task := by
    rw [afterAll_append, he]
    rfl
  have hall := hexplains ((calls ++ [.enqueue task]) ++ between)
  rw [e₀.comers_append _ between, e₀.afterAll_append _ between, hrun, he'] at hall
  refine hall.entries_of_lt ((DispatchQueues.entries_of_pop? hpop).mem_iff.2 List.mem_cons_self) ?_
  rw [comers_append, List.length_append]
  exact Nat.lt_succ_of_le hle

/-- A task of which nothing is known waits already when the game wakes up that interrupts the second
compiler. -/
def earlierComer : List EngineCall := .enqueue (worker 9 "stranger" 1) :: mixedWork

/-- The second compiler has to wait, and so has another game, before its core calls for a task. -/
def untilCalled : List EngineCall :=
  [.stopping (worker 8 "cc1" 2) true, .enqueue (worker 8 "cc1" 2), .selectCpu (worker 6 "steam" 2) 2,
    .enqueue (worker 6 "steam" 2), .tick 2]

theorem no_kick_is_wasted_earlierComer :
    ∃ e, onFourThreads.afterAll earlierComer = e ∧
      (Topology.fourThreads.core? 3).isSome = true ∧
      (e.enqueue (worker 5 "wine64" 3)).host.kicks =
        e.host.kicks ++ #[⟨2, { preempt := true }⟩] ∧
      (∀ c ∈ untilCalled, c.isDispatch = false ∧ c ≠ .taskExit 5) ∧
      ∃ e'', ((e.enqueue (worker 5 "wine64" 3)).afterAll untilCalled).dispatch 2 =
        (some ⟨9, 0, 3000000, 0⟩, e'') := by
  obtain ⟨e₀, hstart, h⟩ := no_kick_is_wasted .fourThreads { taskCapacity := 0 } none {}
    (.ofTopology .fourThreads)
  obtain rfl : onFourThreads = e₀ := Except.ok.inj (start_fourThreads.symm.trans hstart)
  obtain ⟨hcore, hkicks, hnone, hfound⟩ :
      (Topology.fourThreads.core? 3).isSome = true ∧
        ((onFourThreads.afterAll earlierComer).enqueue (worker 5 "wine64" 3)).host.kicks =
          (onFourThreads.afterAll earlierComer).host.kicks ++ #[⟨2, { preempt := true }⟩] ∧
        (∀ c ∈ untilCalled, c.isDispatch = false) ∧
        ((((onFourThreads.afterAll earlierComer).enqueue (worker 5 "wine64" 3)).afterAll
          untilCalled).dispatch 2).1 = some ⟨9, 0, 3000000, 0⟩ := by
    decide +kernel
  have hbetween : ∀ c ∈ untilCalled, c.isDispatch = false ∧ c ≠ .taskExit 5 := by
    intro c hc
    refine ⟨hnone c hc, ?_⟩
    rintro rfl
    simp [untilCalled] at hc
  obtain ⟨-, hfinds⟩ := h earlierComer _ rfl (worker 5 "wine64" 3) _ hcore hkicks
    ⟨2, { preempt := true }⟩ (by simp)
  obtain ⟨w, e'', hdispatch, -⟩ := hfinds untilCalled _ rfl hbetween
  obtain rfl : w = ⟨9, 0, 3000000, 0⟩ := by
    rw [hdispatch] at hfound
    exact Option.some.inj hfound
  exact ⟨_, rfl, hcore, hkicks, hbetween, e'', hdispatch⟩

end Engine

end CoreSteer
