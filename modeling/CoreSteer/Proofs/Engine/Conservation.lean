import CoreSteer.Proofs.Dispatch.Drain
import CoreSteer.Proofs.Engine.Calls
/-!
# Nobody in the dispatch queues is lost

A `QueueLog` follows the tasks that are enqueued: some were handed to a core, some were withdrawn
because they are gone, and the others still wait.  The invariant `QueueLog.Accounts` says that each
of them is in exactly one of these places, and what the counters say about it.  Since a core looks
at every queue, one that finds nothing to run leaves nobody waiting.
-/
namespace CoreSteer

/-- The counters that do not follow the tasks in the queues. -/
def CounterSet.elsewhere : CounterSet := fun k => k != .enqueued && k != .dispatched

/-- What became of the tasks that were enqueued. -/
structure QueueLog where
  /-- The tasks that were enqueued, in order. -/
  came : List Nat := []
  /-- Those that were handed to a core. -/
  served : List Waiting := []
  /-- Those that were withdrawn. -/
  withdrawn : List Waiting := []

namespace QueueLog

/-- Note what happens to an engine. -/
def note (log : QueueLog) (e : Engine) : EngineCall → QueueLog
  | .enqueue task => { log with came := log.came ++ [task.pid] }
  | .dispatch cpu => { log with served := log.served ++ (e.dispatch cpu).1.toList }
  | .taskExit pid =>
    { log with withdrawn := log.withdrawn ++ e.queues.entries.filter (·.pid == pid) }
  | _ => log

/-- All that is known of tasks that were enqueued. -/
def places (log : QueueLog) (e : Engine) : List Waiting :=
  log.served ++ log.withdrawn ++ e.queues.entries

/-- The log accounts for all tasks that were enqueued: each of them is in one place, under the
number with which it came. -/
structure Accounts (log : QueueLog) (e : Engine) : Prop where
  /-- Each queue says how many tasks it holds. -/
  counted : e.queues.Counted
  /-- Each domain has a queue. -/
  nrDomains : e.queues.domains.size = e.topology.nrDomains
  /-- As many tasks came to the queues as were enqueued. -/
  arrivals : e.queues.arrivals = log.came.length
  /-- Each of them is in one place. -/
  once : ((log.places e).map (·.arrival)).Perm (List.range log.came.length)
  /-- Each is known by its id. -/
  whose : ∀ w ∈ log.places e, log.came[w.arrival]? = some w.pid
  /-- The tasks enqueued are counted. -/
  enqueued : e.counters.get .enqueued = wrap64 log.came.length
  /-- The tasks handed out are counted. -/
  dispatched : e.counters.get .dispatched = wrap64 log.served.length

namespace Accounts

variable {log : QueueLog} {e e' : Engine}

/-- The same tasks, in the same or in other places. -/
lemma of_perm (h : log.Accounts e) {log' : QueueLog} (hcame : log'.came = log.came)
    (hp : (log'.places e').Perm (log.places e)) (hcounted : e'.queues.Counted)
    (hd : e'.queues.domains.size = e.queues.domains.size) (ht : e'.topology = e.topology)
    (ha : e'.queues.arrivals = e.queues.arrivals)
    (hen : e'.counters.get .enqueued = e.counters.get .enqueued)
    (hdis : e'.counters.get .dispatched = wrap64 log'.served.length) : log'.Accounts e' where
  counted := hcounted
  nrDomains := by rw [hd, ht, h.nrDomains]
  arrivals := by rw [ha, hcame, h.arrivals]
  once := by rw [hcame]; exact (hp.map _).trans h.once
  whose w hw := by rw [hcame]; exact h.whose w (hp.mem_iff.1 hw)
  enqueued := by rw [hen, hcame, h.enqueued]
  dispatched := hdis

/-- A call that has nothing to do with the queues does not matter. -/
lemma of_outcome (h : log.Accounts e) {p : CounterSet} {host : Host}
    (ho : Engine.Outcome p e host e.queues e')
    (hp : ∀ k, p k = true → CounterSet.elsewhere k = true) : log.Accounts e' := by
  have hc := ho.counters_sameBut.mono hp
  have hq := ho.queues_eq
  refine h.of_perm rfl ?_ (hq ▸ h.counted) (hq ▸ rfl) ho.topology_eq (hq ▸ rfl)
    (hc .enqueued rfl) ((hc .dispatched rfl).trans h.dispatched)
  rw [places, places, hq]

/-- A task that is enqueued has the number of tasks enqueued before it. -/
lemma enqueue (h : log.Accounts e) (task : Task) :
    (log.note e (.enqueue task)).Accounts (e.enqueue task) := by
  obtain ⟨id, kicks, ho⟩ := e.outcome_enqueue task
  -- attending to a task does not count in the two counters that the log is about
  have hc : ∀ k, CounterSet.attention k = false →
      (e.enqueue task).counters.get k = (e.counters.bump .enqueued).get k :=
    ho.counters_sameBut
  have hplaces : ((log.note e (.enqueue task)).places (e.enqueue task)).Perm
      (⟨task.pid, e.keyFor task, e.tunables.load.slice, log.came.length⟩ :: log.places e) := by
    rw [places, ho.queues_eq, ← h.arrivals]
    exact ((e.queues.entries_insert id task.pid _ _).append_left _).trans List.perm_middle
  refine ⟨?_, ?_, ?_, ?_, ?_, ?_, ?_⟩
  · rw [ho.queues_eq]
    exact DispatchQueues.counted_insert h.counted id _ _ _
  · rw [ho.queues_eq, ho.topology_eq, DispatchQueues.size_insert]
    exact h.nrDomains
  · rw [ho.queues_eq]
    simp [note, DispatchQueues.insert, h.arrivals]
  · refine (hplaces.map _).trans ?_
    simp only [List.map_cons, note, List.length_append, List.length_singleton, List.range_succ]
    exact (h.once.cons _).trans (List.perm_append_singleton _ _).symm
  · intro w hw
    rcases List.mem_cons.1 (hplaces.mem_iff.1 hw) with rfl | hw
    · simp [note]
    · have hwhose := h.whose w hw
      obtain ⟨hlt, -⟩ := List.getElem?_eq_some_iff.1 hwhose
      exact (List.getElem?_append_left hlt).trans hwhose
  · rw [hc .enqueued rfl, Counters.get_bump_self, h.enqueued, wrap64_wrap64_add]
    simp [note]
  · rw [hc .dispatched rfl, Counters.get_bump_of_ne _ (by decide), h.dispatched]
    rfl

lemma dispatch (h : log.Accounts e) (cpu : Nat) :
    (log.note e (.dispatch cpu)).Accounts (e.dispatch cpu).2 := by
  rcases hp : e.queues.popFirst? (drainOrder e.topology cpu) with _ | ⟨w, queues⟩
  · obtain ⟨hnone, ho⟩ := e.outcome_dispatch_none hp
    have hnote : log.note e (.dispatch cpu) = log := by simp [note, hnone]
    rw [hnote]
    exact h.of_outcome ho fun k hk => by cases hk
  · obtain ⟨hsome, ho⟩ := e.outcome_dispatch_some hp
    obtain ⟨id, -, hpop⟩ := DispatchQueues.popFirst?_eq_some hp
    have hc : ∀ k, (e.dispatch cpu).2.counters.get k = (e.counters.bump .dispatched).get k :=
      fun k => ho.counters_sameBut k rfl
    have hserved : (log.note e (.dispatch cpu)).served = log.served ++ [w] := by
      simp [note, hsome]
    refine h.of_perm rfl ?_ ?_ ?_ ho.topology_eq ?_ ?_ ?_
    · -- the task goes from the queues to the end of those served
      have hq : e.queues.entries.Perm (w :: queues.entries) := DispatchQueues.entries_of_pop? hpop
      rw [places, places, hserved, ho.queues_eq, List.append_assoc, List.append_assoc,
        List.append_assoc]
      exact (List.perm_middle.symm.trans (hq.symm.append_left _)).append_left _
    · rw [ho.queues_eq]
      exact DispatchQueues.counted_of_pop? h.counted hpop
    · rw [ho.queues_eq]
      exact DispatchQueues.size_of_pop? hpop
    · rw [ho.queues_eq]
      exact DispatchQueues.arrivals_of_pop? hpop
    · rw [hc, Counters.get_bump_of_ne _ (by decide)]
    · rw [hc, Counters.get_bump_self, h.dispatched, wrap64_wrap64_add, hserved]
      simp

lemma taskExit (h : log.Accounts e) (pid : Nat) :
    (log.note e (.taskExit pid)).Accounts (e.taskExit pid) := by
  have ho := e.outcome_taskExit pid
  have hc : ∀ k, (e.taskExit pid).counters.get k = e.counters.get k :=
    fun k => ho.counters_sameBut k rfl
  refine h.of_perm rfl ?_ ?_ ?_ ho.topology_eq ?_ (hc _) ((hc _).trans h.dispatched)
  · rw [places, places, ho.queues_eq]
    simp only [note, List.append_assoc]
    exact ((e.queues.entries_split pid).symm.append_left _).append_left _
  · rw [ho.queues_eq]
    exact e.queues.counted_remove pid
  · rw [ho.queues_eq]
    exact e.queues.size_remove pid
  · rw [ho.queues_eq]
    rfl

/-- Whatever happens to an engine, the log goes on to account for the tasks that were enqueued. -/
lemma note (h : log.Accounts e) (c : EngineCall) : (log.note e c).Accounts (e.after c) := by
  have hp : ∀ p : CounterSet, p .enqueued = false → p .dispatched = false →
      ∀ k, p k = true → CounterSet.elsewhere k = true := by
    intro p hen hdis k hk
    have hne : k ≠ .enqueued := by
      rintro rfl
      simp [hen] at hk
    have hnd : k ≠ .dispatched := by
      rintro rfl
      simp [hdis] at hk
    simp [CounterSet.elsewhere, hne, hnd]
  cases c with
  | selectCpu task prev =>
    obtain ⟨found, host, -, -, ho⟩ := e.outcome_selectCpu task prev
    exact h.of_outcome ho (hp _ rfl rfl)
  | enqueue task => exact h.enqueue task
  | dispatch cpu => exact h.dispatch cpu
  | running task => exact h.of_outcome (e.outcome_running task) (hp _ rfl rfl)
  | stopping task runnable => exact h.of_outcome (e.outcome_stopping task runnable) (hp _ rfl rfl)
  | tick cpu => exact h.of_outcome (e.outcome_tick cpu) (hp _ rfl rfl)
  | noteProfileMatch task => exact h.of_outcome (e.outcome_noteProfileMatch task) (hp _ rfl rfl)
  | taskExit pid => exact h.taskExit pid
  | exit reason => exact { h with }
  | readEvents => exact { h with }
  | settings tunables => exact { h with }
  | knowledge hints => exact { h with }
  | platform host => exact { h with }

/-! ### What the log says -/

/-- The tasks enqueued are those handed out, those withdrawn and those that wait. -/
lemma balance (h : log.Accounts e) :
    e.counters.get .enqueued =
      wrap64 (e.counters.get .dispatched + log.withdrawn.length + e.queuedTotal) := by
  have hlen : log.came.length = log.served.length + log.withdrawn.length + e.queuedTotal := by
    have := h.once.length_eq
    rw [List.length_map, List.length_range, places, List.length_append, List.length_append] at this
    rw [Engine.queuedTotal, DispatchQueues.total_eq h.counted, this]
  rw [h.enqueued, h.dispatched, Nat.add_assoc, wrap64_wrap64_add, ← Nat.add_assoc, hlen]

/-- Each time that a task was enqueued, it was handed out at most once. -/
lemma nodup_served (h : log.Accounts e) : (log.served.map (·.arrival)).Nodup := by
  have hn : ((log.places e).map (·.arrival)).Nodup := h.once.nodup_iff.2 List.nodup_range
  rw [places, List.append_assoc, List.map_append] at hn
  exact (List.nodup_append.1 hn).1

lemma whose_served (h : log.Accounts e) {w : Waiting} (hw : w ∈ log.served) :
    log.came[w.arrival]? = some w.pid :=
  h.whose w (List.mem_append_left _ (List.mem_append_left _ hw))

/-- A core of the machine finds nothing exactly when nobody waits. -/
lemma dispatch_eq_none_iff (h : log.Accounts e) {cpu : Nat} {core : CoreDesc}
    (hc : e.topology.core? cpu = some core) :
    (e.dispatch cpu).1 = none ↔ e.queuedTotal = 0 := by
  rw [e.dispatch_eq_none_iff_popFirst?]
  exact DispatchQueues.popFirst?_drainOrder_eq_none_iff h.counted h.nrDomains hc

/-- A core that does not exist finds nothing exactly when the fallback queue is empty. -/
lemma dispatch_eq_none_iff_of_no_core (h : log.Accounts e) {cpu : Nat}
    (hc : e.topology.core? cpu = none) :
    (e.dispatch cpu).1 = none ↔ e.queued .fallback = 0 := by
  rw [e.dispatch_eq_none_iff_popFirst?]
  exact DispatchQueues.popFirst?_drainOrder_of_no_core h.counted hc

end Accounts

end QueueLog

/-! ## Runs -/

namespace Engine

/-- The log and the engine after calls in order. -/
def logged (e : Engine) (log : QueueLog) : List EngineCall → QueueLog × Engine
  | [] => (log, e)
  | c :: cs => (e.after c).logged (log.note e c) cs

lemma accounts_logged {e : Engine} {log : QueueLog} (h : log.Accounts e)
    (cs : List EngineCall) : (e.logged log cs).1.Accounts (e.logged log cs).2 := by
  induction cs generalizing e log with
  | nil => exact h
  | cons c cs ih => exact ih (h.note c)

lemma topology_logged (e : Engine) (log : QueueLog) (cs : List EngineCall) :
    (e.logged log cs).2.topology = e.topology := by
  induction cs generalizing e log with
  | nil => rfl
  | cons c cs ih => exact (ih (e.after c) _).trans (e.topology_after c)

/-- When nothing has happened, nobody was enqueued. -/
lemma accounts_start {t : Topology} {config : EngineConfig} {queues : DispatchQueues}
    (hq : DispatchQueues.make t.nrDomains (tableSize config.taskCapacity) = .ok queues)
    (tunables : TunablesCell) (hints : Hints) (host : Host) (tasks : TaskTable) :
    QueueLog.Accounts {} ⟨.make t config tunables hints host, tasks, queues, none⟩ := by
  have hentries := DispatchQueues.entries_make hq
  refine ⟨DispatchQueues.counted_make hq, ?_, ?_, ?_, ?_, Ledger.get_zero _, Ledger.get_zero _⟩
  · rw [DispatchQueues.make_eq_ok hq, Array.size_replicate]
    exact Nat.min_eq_left t.nrDomains_le
  · rw [DispatchQueues.make_eq_ok hq]
    rfl
  · simp [QueueLog.places, hentries]
  · simp [QueueLog.places, hentries]

/-- Whatever happens to an engine from its start on, in any order, the tasks that were enqueued are
those that were handed to cores, those that were withdrawn and those that wait; no time that a task
was enqueued is a task handed out twice.  A core of the machine looks at every queue once, first at
that of its own domain and last at the fallback queue, and finds nothing exactly when nobody waits;
any other core finds nothing exactly when the fallback queue is empty.  No core ever looks at more
queues than its list of them has room for. -/
theorem calls_conserve_tasks (t : Topology) (config : EngineConfig) (tunables : TunablesCell)
    (hints : Hints) (host : Host) :
    ∃ e₀, start t config tunables hints host = .ok e₀ ∧
      ∀ calls, ∃ log e, e₀.logged {} calls = (log, e) ∧
        e.counters.get .enqueued =
          wrap64 (e.counters.get .dispatched + log.withdrawn.length + e.queuedTotal) ∧
        (log.served.map (·.arrival)).Nodup ∧
        (log.served.map fun w => log.came[w.arrival]?) = log.served.map (some ·.pid) ∧
        (∀ cpu core, t.core? cpu = some core →
          (drainOrder t cpu).Nodup ∧
          (∀ id, id ∈ drainOrder t cpu ↔ id = .fallback ∨ ∃ d < t.nrDomains, id = .domain d) ∧
          (drainOrder t cpu).head? = some (.domain core.domain) ∧
          (drainOrder t cpu).getLast? = some .fallback ∧
          ((e.dispatch cpu).1 = none ↔ e.queuedTotal = 0)) ∧
        (∀ cpu, (drainOrder t cpu).length ≤ maxDomains + 2) ∧
        ∀ cpu, t.nrCpus ≤ cpu → ((e.dispatch cpu).1 = none ↔ e.queued .fallback = 0) := by
  obtain ⟨queues, hqueues, hstart⟩ := exists_start t config tunables hints host
  have h₀ := accounts_start hqueues tunables hints host (.ofCapacity config.taskCapacity)
  refine ⟨_, hstart, fun calls => ⟨_, _, rfl, ?_⟩⟩
  have h := accounts_logged h₀ calls
  have ht := topology_logged
    ⟨.make t config tunables hints host, .ofCapacity config.taskCapacity, queues, none⟩ {} calls
  change _ = t at ht
  refine ⟨h.balance, h.nodup_served, List.map_congr_left fun w hw => h.whose_served hw,
    fun cpu core hc => ?_, length_drainOrder_le t, fun cpu hc => ?_⟩
  · have hcore := hc
    rw [← ht] at hcore
    exact ⟨nodup_drainOrder t cpu, fun id => mem_drainOrder hc, head?_drainOrder hc,
      getLast?_drainOrder t cpu, h.dispatch_eq_none_iff hcore⟩
  · refine h.dispatch_eq_none_iff_of_no_core ?_
    rw [ht, Topology.core?_eq_none_iff]
    exact hc

/-- A task that is enqueued twice, once from a core that does not exist, and one that leaves. -/
def mixedCalls : List EngineCall :=
  let task : Task := { pid := 1, tgid := 1, name := .ofString "render", allowed := .firstN 2 }
  [.enqueue task, .enqueue { task with cpu := 7 }, .enqueue { task with pid := 2, cpu := 1 },
    .dispatch 7, .taskExit 1, .dispatch 7]

theorem calls_conserve_tasks_mixedCalls :
    ∃ e₀, start .twoDomains {} none {} (.ofTopology .twoDomains) = .ok e₀ ∧
      ∃ log e, e₀.logged {} mixedCalls = (log, e) ∧
        (Topology.core? .twoDomains 1).isSome ∧ Topology.nrCpus .twoDomains ≤ 7 ∧
        ((e.dispatch 1).1 = none ↔ e.queuedTotal = 0) ∧
        ((e.dispatch 7).1 = none ↔ e.queued .fallback = 0) := by
  obtain ⟨e₀, hstart, h⟩ :=
    calls_conserve_tasks .twoDomains {} none {} (.ofTopology .twoDomains)
  obtain ⟨log, e, hlogged, -, -, -, hcore, -, hnone⟩ := h mixedCalls
  obtain ⟨-, -, -, -, hone⟩ := hcore 1 ⟨1, 0, 0, none, false, true, false⟩ rfl
  exact ⟨e₀, hstart, log, e, hlogged, rfl, by decide, hone, hnone 7 (by decide)⟩

end Engine

end CoreSteer
