import CoreSteer.Proofs.Engine.Enqueueing
/-!
# Which core a game interrupts

A task that counts as gaming wants low latency (`Consistent.gaming`), so that enqueueing it always
looks for a core that gives way, among those of the low-latency domain.  What is counted before that
leaves what the cores run as it is.  Thus the core is chosen by what the engine knows when the task is
enqueued, and it is the last of those that run the least urgent work there.
-/
namespace CoreSteer

namespace Machine

variable {m : Machine} {domain cpu : Nat}

lemma kickVictim_of_victim?_eq_none (h : m.victim? domain .gaming = none) (task : Task) :
    m.kickVictim task domain = m := by
  rw [kickVictim, h]

/-- The core that gives way is told to, which is counted. -/
lemma kickVictim_of_victim?_eq_some (h : m.victim? domain .gaming = some cpu) (task : Task) :
    (m.kickVictim task domain).host = m.host.kick cpu { preempt := true } ∧
      (m.kickVictim task domain).counters = m.counters.bump .preemptKicks := by
  rw [kickVictim, h]
  exact ⟨rfl, rfl⟩

end Machine

namespace Engine

variable {t : Topology} {e : Engine} {task : Task}

/-- Enqueueing a gaming task counts it and interrupts some core of the low-latency domain for it. -/
lemma toMachine_enqueue_of_gaming {s : TaskState} (hs : e.comesWith task = some s)
    (hgaming : s.flags.gaming = true) (hwants : s.flags.wantsLowLatency = true) :
    (e.enqueue task).toMachine =
      ((e.toMachine.countEnqueue task).countGamingEnqueue task).kickVictim task
        e.topology.lowLatencyDomain := by
  have hm := e.toMachine_enqueue task
  rw [show (e.tasks.track task.pid).get? task.pid = some s from hs] at hm
  rw [hm]
  simp only [Machine.attend, hgaming, hwants, if_true]
  rfl

/-- A gaming task interrupts the core that gives way to it, if there is one. -/
lemma Consistent.enqueue_of_gaming (h : e.Consistent t)
    (hgaming : TaskState.isGaming (e.task? task.pid) = true) :
    (∀ cpu, e.victim? t.lowLatencyDomain .gaming = some cpu →
        (e.enqueue task).host.kicks = e.host.kicks.push ⟨cpu, { preempt := true }⟩ ∧
        (e.enqueue task).counters.get .preemptKicks =
          wrap64 (e.counters.get .preemptKicks + 1)) ∧
      (e.victim? t.lowLatencyDomain .gaming = none →
        (e.enqueue task).host.kicks = e.host.kicks ∧
        (e.enqueue task).counters.get .preemptKicks = e.counters.get .preemptKicks) := by
  obtain ⟨s, hs, hgaming⟩ := (Option.any_eq_true _ _).1 hgaming
  have hfindings : e.findings? task.pid = some s.findings := by
    rw [findings?, hs, Option.map_some]
  have hwants := ((h.findings task.pid _ hfindings).gaming hgaming).2
  have hm := toMachine_enqueue_of_gaming (e.comesWith_of_task? task h.sound hs) hgaming hwants
  rw [h.topology] at hm
  -- what is counted first neither decides who gives way nor kicks anybody
  have halike := (e.toMachine.alike_countEnqueue task).trans
    ((e.toMachine.countEnqueue task).alike_countGamingEnqueue task)
  have hcounter : ((e.toMachine.countEnqueue task).countGamingEnqueue task).counters.get
      .preemptKicks = e.counters.get .preemptKicks := by
    show (((e.counters.bump .enqueued).bump .gamingEnqueued).get .preemptKicks) = _
    rw [Counters.get_bump_of_ne _ (by decide), Counters.get_bump_of_ne _ (by decide)]
  constructor
  · intro cpu hcpu
    rw [← halike.victim?] at hcpu
    obtain ⟨hhost, hcounters⟩ := Machine.kickVictim_of_victim?_eq_some hcpu task
    constructor
    · rw [hm, hhost, halike.host]
      rfl
    · rw [hm, hcounters, Counters.get_bump_self, hcounter]
  · intro hnone
    rw [← halike.victim?] at hnone
    constructor
    · rw [hm, Machine.kickVictim_of_victim?_eq_none hnone, halike.host]
    · rw [hm, Machine.kickVictim_of_victim?_eq_none hnone, hcounter]

/-- A task that is not tracked as gaming interrupts nobody. -/
lemma kicks_enqueue_of_not_gaming (h : e.tasks.Sound)
    (hgaming : TaskState.isGaming (e.task? task.pid) = false) :
    (e.enqueue task).host.kicks = e.host.kicks ∧
      (e.enqueue task).counters.get .preemptKicks = e.counters.get .preemptKicks := by
  rw [← e.isGaming_comesWith task h] at hgaming
  constructor
  · rw [(e.enqueue_of_not_gaming task hgaming).1]
  · exact e.get_counters_enqueue_of_not_gaming task hgaming (by decide) (by decide)

/-! ## Runs -/

/-- A game interrupts the right core.  From the start of an engine on, whatever happens to it and in
whatever order: if a task is enqueued that is tracked as gaming, and some core of the low-latency domain
runs something less urgent, then the last of the cores that run the least urgent work there is told to
give way, and this is counted.  In any other case no core is told anything. -/
theorem gaming_interrupts_least_urgent (t : Topology) (config : EngineConfig)
    (tunables : TunablesCell) (hints : Hints) (host : Host) :
    ∃ e₀, start t config tunables hints host = .ok e₀ ∧
      ∀ calls e, e₀.afterAll calls = e → ∀ task,
        (TaskState.isGaming (e.task? task.pid) = true →
          (∃ cpu u, e.MayYield t.lowLatencyDomain .gaming cpu u) →
          ∃ cpu, e.Yields t.lowLatencyDomain .gaming cpu ∧
            (e.enqueue task).host.kicks = e.host.kicks.push ⟨cpu, { preempt := true }⟩ ∧
            (e.enqueue task).counters.get .preemptKicks =
              wrap64 (e.counters.get .preemptKicks + 1)) ∧
        (¬(TaskState.isGaming (e.task? task.pid) = true ∧
            ∃ cpu u, e.MayYield t.lowLatencyDomain .gaming cpu u) →
          (e.enqueue task).host.kicks = e.host.kicks ∧
          (e.enqueue task).counters.get .preemptKicks = e.counters.get .preemptKicks) := by
  obtain ⟨queues, -, hstart⟩ := exists_start t config tunables hints host
  refine ⟨_, hstart, fun calls e he task => ?_⟩
  have h := (Consistent.start t config tunables hints host queues).afterAll calls
  rw [he] at h
  constructor
  · rintro hgaming ⟨c, u, hyield⟩
    rcases hvictim : e.victim? t.lowLatencyDomain .gaming with _ | cpu
    · exact absurd hyield (Machine.victim?_eq_none_iff.1 hvictim c u)
    · exact ⟨cpu, Machine.victim?_eq_some_iff.1 hvictim, (h.enqueue_of_gaming hgaming).1 cpu hvictim⟩
  · intro hother
    rcases hgaming : TaskState.isGaming (e.task? task.pid)
    · exact kicks_enqueue_of_not_gaming h.sound hgaming
    · refine (h.enqueue_of_gaming hgaming).2 (Machine.victim?_eq_none_iff.2 fun cpu u hyield => ?_)
      exact hother ⟨hgaming, cpu, u, hyield⟩

/-- An engine for one domain with four cores, on which nothing has happened yet. -/
def onFourThreads : Engine where
  toMachine := .make .fourThreads { taskCapacity := 0 } none {} (.ofTopology .fourThreads)
  tasks := .ofCapacity 0
  queues := ⟨.empty, #[.empty], 64, 0⟩

lemma start_fourThreads :
    start .fourThreads { taskCapacity := 0 } none {} (.ofTopology .fourThreads) =
      .ok onFourThreads :=
  rfl

/-- A task on a core. -/
def worker (pid : Nat) (name : String) (cpu : Nat) : Task :=
  { pid := pid, tgid := pid, name := .ofString name, cpu := cpu, allowed := .firstN 4 }

/-- A shell and two compilers run on the first three cores, and task zero on the last one; then a game
wakes up. -/
def mixedWork : List EngineCall :=
  [.selectCpu (worker 3 "bash" 0) 0, .running (worker 3 "bash" 0), .running (worker 7 "cc1" 1),
    .running (worker 8 "cc1" 2), .running (worker 0 "swapper" 3), .selectCpu (worker 5 "wine64" 3) 3]

/-- The game interrupts the second compiler. -/
theorem gaming_interrupts_least_urgent_mixedWork :
    ∃ e, onFourThreads.afterAll mixedWork = e ∧
      TaskState.isGaming (e.task? 5) = true ∧ e.MayYield 0 .gaming 0 .interactive ∧
      e.Yields 0 .gaming 2 ∧
      (e.enqueue (worker 5 "wine64" 3)).host.kicks = e.host.kicks.push ⟨2, { preempt := true }⟩ ∧
      (e.enqueue (worker 3 "bash" 0)).host.kicks = e.host.kicks := by
  obtain ⟨e₀, hstart, h⟩ := gaming_interrupts_least_urgent .fourThreads { taskCapacity := 0 } none {}
    (.ofTopology .fourThreads)
  obtain rfl : onFourThreads = e₀ := Except.ok.inj (start_fourThreads.symm.trans hstart)
  obtain ⟨hgame, hshell, hvictim⟩ :
      TaskState.isGaming ((onFourThreads.afterAll mixedWork).task? 5) = true ∧
        TaskState.isGaming ((onFourThreads.afterAll mixedWork).task? 3) = false ∧
        (onFourThreads.afterAll mixedWork).victim? 0 .gaming = some 2 := by
    decide +kernel
  have hyield : (onFourThreads.afterAll mixedWork).MayYield 0 .gaming 0 .interactive :=
    Machine.mayYield_iff.2 (by decide +kernel)
  have hyields := Machine.victim?_eq_some_iff.1 hvictim
  obtain ⟨cpu, hcpu, hkicks, -⟩ :=
    (h mixedWork _ rfl (worker 5 "wine64" 3)).1 hgame ⟨0, .interactive, hyield⟩
  obtain rfl := hcpu.unique hyields
  refine ⟨_, rfl, hgame, hyield, hyields, hkicks, ?_⟩
  refine ((h mixedWork _ rfl (worker 3 "bash" 0)).2 fun hshell' => ?_).1
  exact absurd (hshell.symm.trans hshell'.1) (by decide)

end Engine

end CoreSteer
