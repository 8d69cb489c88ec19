import CoreSteer.Proofs.Engine.Kicks
/-!
# What is observed decides nothing

An engine counts, keeps statistics of each core, and reports to a stream that others read.  Two
engines are `Engine.Alike` if they differ at most in that: in the length of their streams and what is
in them, in their counters, and in the statistics of their cores.  Whatever happens to both, they
decide the same and stay alike, and it does not matter when somebody reads their events, or whether
anybody does.

What only counts or reports leaves a machine alike to itself (`Machine.Noted.alike` and its
neighbours), and being alike is an equivalence, so a law for two machines is needed for those steps
only that decide something.
-/
namespace CoreSteer

/-- What a core runs and how fast it goes: all that is known of it but its statistics. -/
def CoreState.activity (c : CoreState) : RunState × CorePerf := (c.run, c.perf)

namespace Machine

/-- What the cores run and how fast they go. -/
def activities (m : Machine) : Array (RunState × CorePerf) := m.cores.map (·.activity)

lemma getElem?_activities (m : Machine) (cpu : Nat) :
    m.activities[cpu]? = (m.core? cpu).map (·.activity) := Array.getElem?_map

lemma core?_modifyCore (m : Machine) (cpu : Nat) (f : CoreState → CoreState) (i : Nat) :
    (m.modifyCore cpu f).core? i = if cpu = i then (m.core? i).map f else m.core? i :=
  Array.getElem?_modify

/-- Two machines differ at most in what is observed. -/
structure Alike (m n : Machine) : Prop where
  /-- They have the same cores. -/
  topology : n.topology = m.topology
  /-- They have the same settings but for how many events may wait. -/
  config : ∃ capacity, n.config = { m.config with eventCapacity := capacity }
  /-- They have the same settings of those that may change. -/
  tunables : n.tunables = m.tunables
  /-- The same is known about tasks. -/
  hints : n.hints = m.hints
  /-- They are plugged into the same platform. -/
  host : n.host = m.host
  /-- The same runs in each domain. -/
  loads : n.loads = m.loads
  /-- The cores run the same and go equally fast. -/
  activities : n.activities = m.activities

variable {l m n : Machine}

lemma alike_iff : m.Alike n ↔ ∃ capacity counters cores events,
    cores.map (·.activity) = m.activities ∧
      n = { m with
        config := { m.config with eventCapacity := capacity }, counters := counters
        cores := cores, events := events } := by
  constructor
  · rintro ⟨ht, ⟨capacity, hc⟩, htun, hh, hhost, hl, ha⟩
    refine ⟨capacity, n.counters, n.cores, n.events, ha, ?_⟩
    rcases n with ⟨⟩
    subst ht hc htun hh hhost hl
    rfl
  · rintro ⟨capacity, counters, cores, events, ha, rfl⟩
    exact ⟨rfl, ⟨capacity, rfl⟩, rfl, rfl, rfl, rfl, ha⟩

namespace Alike

lemma refl (m : Machine) : m.Alike m := ⟨rfl, ⟨_, rfl⟩, rfl, rfl, rfl, rfl, rfl⟩

lemma symm (h : m.Alike n) : n.Alike m := by
  obtain ⟨ht, ⟨capacity, hc⟩, htun, hh, hhost, hl, ha⟩ := h
  refine ⟨ht.symm, ⟨m.config.eventCapacity, ?_⟩, htun.symm, hh.symm, hhost.symm, hl.symm, ha.symm⟩
  rw [hc]

lemma trans (h : l.Alike m) (h' : m.Alike n) : l.Alike n := by
  obtain ⟨capacity, hc⟩ := h.config
  obtain ⟨capacity', hc'⟩ := h'.config
  refine ⟨h'.topology.trans h.topology, ⟨capacity', ?_⟩, h'.tunables.trans h.tunables,
    h'.hints.trans h.hints, h'.host.trans h.host, h'.loads.trans h.loads,
    h'.activities.trans h.activities⟩
  rw [hc', hc]

/-- Machines that are alike stay so if what becomes of each is alike to it. -/
lemma noting {m' n' : Machine} (h : m.Alike n) (hm : m.Alike m') (hn : n.Alike n') :
    m'.Alike n' :=
  (hm.symm.trans h).trans hn

end Alike

/-! ## Steps that only count and report -/

lemma alike_note (m : Machine) (counters : Counters) (events : EventStream) :
    m.Alike { m with counters := counters, events := events } :=
  ⟨rfl, ⟨_, rfl⟩, rfl, rfl, rfl, rfl, rfl⟩

lemma Noted.alike {p : CounterSet} (h : Noted p m n) : m.Alike n := by
  obtain ⟨counters, events, -, rfl⟩ := h
  exact m.alike_note counters events

lemma alike_bump (m : Machine) (k : Counter) : m.Alike (m.bump k) := m.alike_note _ m.events

lemma alike_emit (m : Machine) (e : SchedEvent) : m.Alike (m.emit e) :=
  m.alike_note m.counters _

/-- What is counted of a core is not seen. -/
lemma alike_modifyCore (m : Machine) (cpu : Nat) {f : CoreState → CoreState}
    (hf : ∀ c, (f c).activity = c.activity) : m.Alike (m.modifyCore cpu f) :=
  ⟨rfl, ⟨_, rfl⟩, rfl, rfl, rfl, rfl, m.map_modifyCore_eq cpu hf⟩

lemma alike_countEnqueue (m : Machine) (task : Task) : m.Alike (m.countEnqueue task) :=
  (m.alike_bump _).trans (alike_modifyCore _ _ fun _ => rfl)

lemma alike_countGamingEnqueue (m : Machine) (task : Task) :
    m.Alike (m.countGamingEnqueue task) :=
  (m.alike_bump _).trans (alike_modifyCore _ _ fun _ => rfl)

/-- Count that a core has nothing to run. -/
def countCall (m : Machine) (cpu : Nat) : Machine :=
  m.modifyCore cpu fun c =>
    { c with stats := { c.stats with dispatched := wrap64 (c.stats.dispatched + 1) } }

lemma alike_countCall (m : Machine) (cpu : Nat) : m.Alike (m.countCall cpu) :=
  m.alike_modifyCore cpu fun _ => rfl

lemma alike_accountWait (m : Machine) (task : Task) (gaming : Bool) (latency : Nat) :
    m.Alike (m.accountWait task gaming latency) := by
  have hwait := (m.alike_note (m.counters.wait latency) m.events).trans
    (alike_modifyCore _ task.cpu (f := fun c => { c with stats := c.stats.wait latency })
      fun _ => rfl)
  unfold accountWait
  dsimp only
  split
  · split
    · exact hwait.trans (alike_note _ _ _)
    · exact hwait.trans (alike_note _ _ _)
  · exact hwait

lemma alike_checkImbalance (m : Machine) : m.Alike m.checkImbalance := by
  have hreport : ∀ heavy light, m.Alike (m.reportImbalance heavy light) :=
    fun heavy light => (m.alike_bump _).trans (alike_emit _ _)
  unfold checkImbalance
  split
  · exact .refl m
  · split
    · exact hreport _ _
    · split
      · exact hreport _ _
      · exact .refl m

lemma alike_creditPlacement (m : Machine) (task : Task) (s : TaskState) (cpu : Nat)
    (credit : Credit) : m.Alike (m.creditPlacement task s cpu credit) := by
  cases credit with
  | quiet => exact .refl m
  | counter k => exact m.alike_bump k
  | migration source => exact (m.alike_bump _).trans (alike_emit _ _)

/-! ## Steps that decide -/

namespace Alike

/-- The cores that there are run the same and go equally fast. -/
lemma core (h : m.Alike n) (cpu : Nat) :
    (n.core? cpu).map (·.activity) = (m.core? cpu).map (·.activity) := by
  rw [← getElem?_activities, ← getElem?_activities, h.activities]

lemma onHost (h : m.Alike n) (f : Host → Host) :
    Alike { m with host := f m.host } { n with host := f n.host } :=
  ⟨h.topology, h.config, h.tunables, h.hints, congrArg f h.host, h.loads, h.activities⟩

/-- What becomes of the activity of a core may depend on that activity, and on nothing else. -/
lemma modifyCore (h : m.Alike n) (cpu : Nat) {f : CoreState → CoreState}
    (hf : ∀ c d : CoreState, c.activity = d.activity → (f c).activity = (f d).activity) :
    (m.modifyCore cpu f).Alike (n.modifyCore cpu f) := by
  refine ⟨h.topology, h.config, h.tunables, h.hints, h.host, h.loads, ?_⟩
  refine Array.ext_getElem? fun i => ?_
  have hi := h.core i
  rw [getElem?_activities, getElem?_activities, core?_modifyCore, core?_modifyCore]
  split
  · rcases hm : m.core? i with _ | c <;> rw [hm] at hi
    · rw [Option.map_eq_none_iff.1 hi]
    · obtain ⟨d, hd, hdc⟩ := Option.map_eq_some_iff.1 hi
      rw [hd]
      exact congrArg some (hf d c hdc)
  · exact hi

lemma modifyLoadAt (h : m.Alike n) (cpu : Nat) (f : DomainLoad → DomainLoad) :
    (m.modifyLoadAt cpu f).Alike (n.modifyLoadAt cpu f) := by
  unfold Machine.modifyLoadAt
  rw [h.topology]
  split
  · exact ⟨h.topology, h.config, h.tunables, h.hints, h.host,
      congrArg (Array.modify · _ f) h.loads, h.activities⟩
  · exact h

end Alike

end Machine

/-- What the sources say does not depend on what was counted. -/
lemma fallbackClass_fst (h : Hints) (task : Task) (c d : Counters) :
    (fallbackClass h task c).1 = (fallbackClass h task d).1 := by
  unfold fallbackClass
  rcases h.vmVcpus[task.pid]?.filter WorkloadClass.isSpecific with _ | k
  · dsimp only
    split <;> rfl
  · rfl

lemma cascade_fst (h : Hints) (host : Host) (task : Task) (c d : Counters) :
    (cascade h host task c).1 = (cascade h host task d).1 := by
  unfold cascade
  dsimp only
  split
  · rfl
  · split
    · rfl
    · split
      · rfl
      · split
        · rfl
        · split
          · rfl
          · exact congrArg Classification.other (fallbackClass_fst h task _ _)

namespace Machine

/-- Two decisions are the same, and so is what becomes of the machines. -/
def SameDecision {α : Type} (d d' : α × Machine) : Prop := d'.1 = d.1 ∧ d.2.Alike d'.2

variable {m n : Machine}

namespace Alike

lemma classifyAnew (h : m.Alike n) (task : Task) :
    (n.classifyAnew task).1 = (m.classifyAnew task).1 := by
  unfold Machine.classifyAnew
  dsimp only
  rw [h.hints, h.host]
  exact cascade_fst _ _ _ _ _

lemma classify (h : m.Alike n) (task : Task) (s : TaskState) :
    (n.classify task s).1 = (m.classify task s).1 ∧
      (n.classify task s).2.1 = (m.classify task s).2.1 ∧
      (m.classify task s).2.2.Alike (n.classify task s).2.2 := by
  have halike := h.noting (m.noted_classify task s).alike (n.noted_classify task s).alike
  have hanew := h.classifyAnew task
  have hhost := h.host
  refine ⟨?_, ?_, halike⟩ <;> unfold Machine.classify <;> split
  · rfl
  · exact hanew
  · rfl
  · dsimp only
    rw [hanew]
    exact congrArg (fun now => s.remember (m.classifyAnew task).1 now) (congrArg Host.now hhost)

lemma refresh (h : m.Alike n) (task : Task) (s : TaskState) (prev : Nat) :
    SameDecision (m.refresh task s prev) (n.refresh task s prev) := by
  obtain ⟨hclass, hstate, halike⟩ := h.classify task s
  refine ⟨?_, halike⟩
  unfold Machine.refresh
  dsimp only
  rw [hclass, hstate, h.tunables, halike.topology]

lemma bestOf? (h : m.Alike n) (set : CoreSet) (pool : CpuMask) :
    n.bestOf? set pool = m.bestOf? set pool := by
  unfold Machine.bestOf? candidate
  rw [h.topology, h.hints]

lemma look (h : m.Alike n) (set : CoreSet) (pool : CpuMask) (whole : Bool) :
    SameDecision (m.look set pool whole) (n.look set pool whole) := by
  unfold Machine.look
  rw [h.bestOf?, h.host]
  split
  · exact ⟨rfl, h⟩
  · next c hc =>
    dsimp only
    have hclaimed := h.onHost fun _ => (m.host.claim c.cpu).2
    split
    · exact ⟨rfl, hclaimed.noting (noted_countClaim _ set c.rank whole).alike
        (noted_countClaim _ set c.rank whole).alike⟩
    · exact ⟨rfl, hclaimed⟩

lemma monitorCpu (h : m.Alike n) : n.config.monitorCpu = m.config.monitorCpu := by
  obtain ⟨capacity, hc⟩ := h.config
  rw [hc]

lemma prefersWhole (h : m.Alike n) : n.prefersWhole = m.prefersWhole := by
  obtain ⟨capacity, hc⟩ := h.config
  unfold Machine.prefersWhole
  rw [h.topology, hc]

lemma pickIdle (h : m.Alike n) (task : Task) (set : CoreSet) (whole : Bool) :
    SameDecision (m.pickIdle task set whole) (n.pickIdle task set whole) := by
  unfold Machine.pickIdle
  rw [h.topology, h.prefersWhole, h.host]
  split
  · exact ⟨rfl, h⟩
  · next cores hcores =>
    dsimp only
    split
    · obtain ⟨hfound, halike⟩ := h.look set (cores ∩ task.allowed ∩ m.host.idleWhole) true
      rcases hm : m.look set (cores ∩ task.allowed ∩ m.host.idleWhole) true with ⟨found, m'⟩
      rcases hn : n.look set (cores ∩ task.allowed ∩ m.host.idleWhole) true with ⟨found', n'⟩
      rw [hm, hn] at hfound halike
      obtain rfl : found' = found := hfound
      cases found' with
      | none =>
        dsimp only
        rw [halike.host]
        exact halike.look _ _ _
      | some cpu => exact ⟨rfl, halike⟩
    · exact h.look _ _ _

lemma stages (h : m.Alike n) (strategy : Strategy) (s : TaskState) (prev : Nat) :
    n.stages strategy s prev = m.stages strategy s prev := by
  obtain ⟨_, _, _, _, -, rfl⟩ := alike_iff.1 h
  cases strategy <;> rfl

lemma runStages (h : m.Alike n) (task : Task) (s : TaskState) (stages : List Stage) :
    SameDecision (m.runStages task s stages) (n.runStages task s stages) := by
  induction stages generalizing m n with
  | nil => exact ⟨rfl, h⟩
  | cons g stages ih =>
    obtain ⟨hfound, halike⟩ := h.pickIdle task g.set g.whole
    unfold Machine.runStages
    rcases hm : m.pickIdle task g.set g.whole with ⟨found, m'⟩
    rcases hn : n.pickIdle task g.set g.whole with ⟨found', n'⟩
    rw [hm, hn] at hfound halike
    obtain rfl : found' = found := hfound
    cases found' with
    | none => exact ih halike
    | some cpu =>
      exact ⟨rfl, halike.noting (m'.alike_creditPlacement task s cpu g.credit)
        (n'.alike_creditPlacement task s cpu g.credit)⟩

lemma place (h : m.Alike n) (strategy : Strategy) (task : Task) (s : TaskState) (prev : Nat) :
    SameDecision (m.place strategy task s prev) (n.place strategy task s prev) := by
  unfold Machine.place
  rw [h.stages]
  exact h.runStages task s _

lemma placeDirectly (h : m.Alike n) (task : Task) (cpu : Nat) :
    (m.placeDirectly task cpu).Alike (n.placeDirectly task cpu) := by
  have hslice : n.tunables.load.slice = m.tunables.load.slice := by rw [h.tunables]
  unfold Machine.placeDirectly
  rw [hslice]
  exact (h.onHost (·.place task.pid cpu m.tunables.load.slice)).noting (alike_bump _ _)
    (alike_bump _ _)

lemma urgencyOn? (h : m.Alike n) (cpu : Nat) : n.urgencyOn? cpu = m.urgencyOn? cpu := by
  have hcore : ∀ m : Machine, m.urgencyOn? cpu =
      (((m.core? cpu).map (·.activity)).bind (·.1.current?)).map (·.2) := by
    intro m
    unfold Machine.urgencyOn?
    cases m.core? cpu <;> rfl
  rw [hcore, hcore, h.core]

lemma victim? (h : m.Alike n) (domain : Nat) (waker : Urgency) :
    n.victim? domain waker = m.victim? domain waker := by
  have hconsider : n.considerVictim waker = m.considerVictim waker := by
    funext best cpu
    unfold considerVictim
    rw [h.urgencyOn?]
  unfold Machine.victim?
  rw [h.topology, hconsider]

lemma kickVictim (h : m.Alike n) (task : Task) (domain : Nat) :
    (m.kickVictim task domain).Alike (n.kickVictim task domain) := by
  unfold Machine.kickVictim
  rw [h.victim?]
  split
  · exact h
  · next cpu hv =>
    exact (h.onHost (·.kick cpu { preempt := true })).noting
      ((alike_bump _ _).trans (alike_emit _ _)) ((alike_bump _ _).trans (alike_emit _ _))

lemma attend (h : m.Alike n) (task : Task) (flags : TaskFlags) :
    (m.attend task flags).Alike (n.attend task flags) := by
  have hcounted := h.noting (m.alike_countGamingEnqueue task) (n.alike_countGamingEnqueue task)
  unfold Machine.attend
  dsimp only
  split
  · split
    · rw [hcounted.topology]
      exact hcounted.kickVictim task _
    · exact hcounted
  · split
    · exact h.noting (alike_bump _ _) (alike_bump _ _)
    · exact h

lemma beginRun (h : m.Alike n) (task : Task) (urgency : Urgency) :
    (m.beginRun task urgency).Alike (n.beginRun task urgency) := by
  unfold Machine.beginRun
  rw [h.host]
  refine (h.modifyLoadAt task.cpu _).modifyCore task.cpu ?_
  rintro ⟨run, stats, perf⟩ ⟨run', stats', perf'⟩ hactivity
  cases hactivity
  rfl

lemma endRun (h : m.Alike n) (task : Task) (gaming : Bool) :
    (m.endRun task gaming).Alike (n.endRun task gaming) := by
  unfold Machine.endRun
  rw [h.host]
  refine (h.modifyLoadAt task.cpu _).modifyCore task.cpu ?_
  rintro ⟨run, stats, perf⟩ ⟨run', stats', perf'⟩ hactivity
  cases hactivity
  rfl

end Alike

end Machine

/-! ## Calls -/

/-- What a call returns. -/
inductive EngineAnswer where
  /-- Nothing. -/
  | nothing
  /-- The core for a task that wakes up. -/
  | core (cpu : Nat)
  /-- The task for a core that has nothing to run, if there is one. -/
  | task (w : Option Waiting)
  /-- Whether the task that is gone was tracked. -/
  | tracked (b : Bool)
deriving DecidableEq

namespace Engine

/-- What a call of an engine returns. -/
def answer (e : Engine) : EngineCall → EngineAnswer
  | .selectCpu task prev => .core (e.selectCpu task prev).1
  | .dispatch cpu => .task (e.dispatch cpu).1
  | .taskExit pid => .tracked (e.tasks.contains pid)
  | _ => .nothing

lemma dispatch_eq (e : Engine) (cpu : Nat) :
    e.dispatch cpu =
      match e.queues.popFirst? (drainOrder e.topology cpu) with
      | some (w, queues) =>
        (some w,
          { e.onMachine (·.countCall cpu) with queues := queues }.onMachine (·.bump .dispatched))
      | none => (none, e.onMachine (·.countCall cpu)) :=
  rfl

/-! What becomes of the machine needs to know of the tasks only what is remembered of the one that the
call is about. -/

lemma toMachine_enqueue (e : Engine) (task : Task) :
    (e.enqueue task).toMachine =
      match (e.tasks.track task.pid).get? task.pid with
      | none => e.toMachine.countEnqueue task
      | some s => (e.toMachine.countEnqueue task).attend task s.flags := by
  rcases e with ⟨m, tasks, queues, reason⟩
  unfold enqueue
  dsimp only [onMachine, onTasks, task?]
  cases (tasks.track task.pid).get? task.pid <;> rfl

lemma toMachine_dispatch (e : Engine) (cpu : Nat) :
    (e.dispatch cpu).2.toMachine =
      if (e.queues.popFirst? (drainOrder e.topology cpu)).isSome then
        (e.toMachine.countCall cpu).bump .dispatched
      else e.toMachine.countCall cpu := by
  rw [dispatch_eq]
  cases e.queues.popFirst? (drainOrder e.topology cpu) <;> rfl

lemma toMachine_running (e : Engine) (task : Task) :
    (e.running task).toMachine =
      (match e.task? task.pid with
        | none => e.toMachine
        | some s =>
          if 0 < s.enqueuedAt then
            e.toMachine.accountWait task s.flags.gaming (e.host.now - s.enqueuedAt)
          else e.toMachine).beginRun task (TaskState.urgency (e.task? task.pid)) := by
  rcases e with ⟨m, tasks, queues, reason⟩
  unfold running
  dsimp only [onMachine, onTasks, task?]
  rcases tasks.get? task.pid with _ | s
  · rfl
  · dsimp only
    split <;> rfl

lemma toMachine_stopping (e : Engine) (task : Task) (runnable : Bool) :
    (e.stopping task runnable).toMachine =
      (if TaskState.isGaming (e.task? task.pid) && runnable then e.toMachine.bump .gamingPreempted
        else e.toMachine).endRun task (TaskState.isGaming (e.task? task.pid)) :=
  rfl

lemma toMachine_tick (e : Engine) (cpu : Nat) :
    (e.tick cpu).toMachine =
      if (e.core? cpu).isNone then e.toMachine
      else
        let m := e.toMachine.modifyCore cpu fun c =>
          { c with perf := c.perf.sample (e.host.perfOf cpu) e.host.now }
        if cpu = e.config.monitorCpu ∧ 2 ≤ e.topology.nrDomains then m.checkImbalance else m := by
  unfold tick
  cases e.core? cpu <;> rfl

/-- Two engines differ at most in what is observed. -/
structure Alike (e f : Engine) : Prop where
  /-- Their machines do. -/
  machine : e.toMachine.Alike f.toMachine
  /-- The same tasks are tracked. -/
  tasks : f.tasks = e.tasks
  /-- The same tasks wait. -/
  queues : f.queues = e.queues
  /-- They stopped for the same reason, if they stopped. -/
  exitReason : f.exitReason = e.exitReason

variable {e e' e'' f : Engine}

namespace Alike

lemma refl (e : Engine) : e.Alike e := ⟨.refl _, rfl, rfl, rfl⟩

lemma trans (h : e.Alike e') (h' : e'.Alike e'') : e.Alike e'' :=
  ⟨h.machine.trans h'.machine, h'.tasks.trans h.tasks, h'.queues.trans h.queues,
    h'.exitReason.trans h.exitReason⟩

lemma symm (h : e.Alike f) : f.Alike e :=
  ⟨h.machine.symm, h.tasks.symm, h.queues.symm, h.exitReason.symm⟩

lemma onMachine (h : e.Alike f) (g g' : Machine → Machine)
    (hg : (g e.toMachine).Alike (g' f.toMachine)) : (e.onMachine g).Alike (f.onMachine g') :=
  ⟨hg, h.tasks, h.queues, h.exitReason⟩

lemma onHost (h : e.Alike f) (react : Host → Host) : (e.onHost react).Alike (f.onHost react) :=
  h.onMachine _ _ (h.machine.onHost react)

/-- What leaves every machine alike to itself leaves the two alike. -/
lemma noting (h : e.Alike f) {g : Machine → Machine} (hg : ∀ m : Machine, m.Alike (g m)) :
    (e.onMachine g).Alike (f.onMachine g) :=
  h.onMachine g g (h.machine.noting (hg _) (hg _))

lemma onQueues (h : e.Alike f) (queues : DispatchQueues) :
    Alike { e with queues := queues } { f with queues := queues } :=
  ⟨h.machine, h.tasks, rfl, h.exitReason⟩

lemma onTasks (h : e.Alike f) (g : TaskTable → TaskTable) : (e.onTasks g).Alike (f.onTasks g) :=
  ⟨h.machine, congrArg g h.tasks, h.queues, h.exitReason⟩

lemma task? (h : e.Alike f) (pid : Nat) : f.task? pid = e.task? pid := by
  rw [Engine.task?, Engine.task?, h.tasks]

lemma woken? (h : e.Alike f) (task : Task) (prev : Nat) :
    f.woken? task prev = e.woken? task prev := by
  unfold Engine.woken?
  rw [h.tasks, h.machine.topology]

lemma seekCore (h : e.Alike f) (task : Task) (s : TaskState) (prev : Nat) :
    Machine.SameDecision (e.seekCore task s prev) (f.seekCore task s prev) := by
  obtain ⟨hstate, halike⟩ := h.machine.refresh task s prev
  have hstrategy : f.strategy = e.strategy := by
    rw [strategy, strategy, h.machine.topology]
  unfold Engine.seekCore
  dsimp only
  rw [hstate, hstrategy]
  exact halike.place _ task _ prev

lemma placeDirectly (h : e.Alike f) (task : Task) (cpu : Nat) :
    (e.onMachine (·.placeDirectly task cpu)).Alike (f.onMachine (·.placeDirectly task cpu)) :=
  h.onMachine _ _ (h.machine.placeDirectly task cpu)

lemma settle (h : e.Alike f) (task : Task) (prev : Nat) (found : Option Nat) :
    (f.settle task prev found).1 = (e.settle task prev found).1 ∧
      (e.settle task prev found).2.Alike (f.settle task prev found).2 := by
  cases found with
  | some cpu => exact ⟨rfl, h.placeDirectly task cpu⟩
  | none =>
    unfold Engine.settle
    rw [h.machine.host]
    rcases e.host.choose task prev with ⟨⟨cpu, idle⟩, host⟩
    have hchosen := h.onHost fun _ => host
    cases idle with
    | false => exact ⟨rfl, hchosen⟩
    | true => exact ⟨rfl, hchosen.placeDirectly task cpu⟩

lemma selectCpu (h : e.Alike f) (task : Task) (prev : Nat) :
    (f.selectCpu task prev).1 = (e.selectCpu task prev).1 ∧
      (e.selectCpu task prev).2.Alike (f.selectCpu task prev).2 := by
  have hw := h.woken? task prev
  rcases he : e.woken? task prev with _ | s
  · rw [selectCpu_of_not_woken? he, selectCpu_of_not_woken? (hw.trans he)]
    exact ⟨rfl, h.onTasks (·.track task.pid)⟩
  · obtain ⟨hfound, hsought⟩ := h.seekCore task s prev
    obtain ⟨hstate, -⟩ := h.machine.refresh task s prev
    rw [selectCpu_of_woken? he, selectCpu_of_woken? (hw.trans he), hfound, hstate]
    exact ((h.onTasks _).onMachine _ _ hsought).settle task prev _

lemma queueTask (h : e.Alike f) (id : QueueId) (pid vtime : Nat) :
    (e.queueTask id pid vtime).Alike (f.queueTask id pid vtime) := by
  refine ⟨h.machine, h.tasks, ?_, h.exitReason⟩
  unfold Engine.queueTask
  rw [h.queues, h.machine.tunables]

lemma plainQueue (h : e.Alike f) (task : Task) : f.plainQueue task = e.plainQueue task := by
  rw [Machine.plainQueue, Machine.plainQueue, h.machine.topology]

/-- A tracked task is attended to, and goes to its queue. -/
lemma queueTracked (h : e.Alike f) (task : Task) (s : TaskState) (vtime : Nat) :
    ((e.onMachine (·.attend task s.flags)).queueTask (e.queueFor task s) task.pid vtime).Alike
      ((f.onMachine (·.attend task s.flags)).queueTask (f.queueFor task s) task.pid vtime) := by
  have hqueue : f.queueFor task s = e.queueFor task s := by
    rw [Machine.queueFor, Machine.queueFor, h.machine.topology]
  rw [hqueue]
  exact (h.onMachine _ _ (h.machine.attend task s.flags)).queueTask _ _ _

lemma enqueue (h : e.Alike f) (task : Task) : (e.enqueue task).Alike (f.enqueue task) := by
  have hcounted := (h.noting fun m => m.alike_countEnqueue task).onTasks (·.track task.pid)
  unfold Engine.enqueue
  dsimp only
  rw [hcounted.task?]
  split
  · rw [hcounted.plainQueue]
    exact hcounted.queueTask _ _ _
  · rw [hcounted.machine.host, hcounted.machine.topology]
    exact (hcounted.onTasks _).queueTracked task _ _

lemma dispatch (h : e.Alike f) (cpu : Nat) :
    (f.dispatch cpu).1 = (e.dispatch cpu).1 ∧ (e.dispatch cpu).2.Alike (f.dispatch cpu).2 := by
  have hcalled := h.noting (·.alike_countCall cpu)
  rw [e.dispatch_eq, f.dispatch_eq, h.queues, h.machine.topology]
  rcases e.queues.popFirst? (drainOrder e.topology cpu) with _ | ⟨w, queues⟩
  · exact ⟨rfl, hcalled⟩
  · exact ⟨rfl, (hcalled.onQueues queues).noting (·.alike_bump .dispatched)⟩

lemma running (h : e.Alike f) (task : Task) : (e.running task).Alike (f.running task) := by
  unfold Engine.running
  rw [h.task?, h.machine.host]
  dsimp only
  split
  · exact h.onMachine _ _ (h.machine.beginRun task _)
  · next s hs =>
    have hput := h.onTasks (·.put task.pid { s with lastRunAt := e.host.now, enqueuedAt := 0 })
    split
    · have hwaited := hput.noting fun m =>
        m.alike_accountWait task s.flags.gaming (e.host.now - s.enqueuedAt)
      exact hwaited.onMachine _ _ (hwaited.machine.beginRun task _)
    · exact hput.onMachine _ _ (hput.machine.beginRun task _)

lemma stopping (h : e.Alike f) (task : Task) (runnable : Bool) :
    (e.stopping task runnable).Alike (f.stopping task runnable) := by
  have hstopped := h.onTasks (·.modify task.pid (·.stop e.host.now runnable))
  unfold Engine.stopping
  rw [h.task?, h.machine.host]
  refine hstopped.onMachine _ _ (Machine.Alike.endRun ?_ task _)
  split
  · exact h.machine.noting (Machine.alike_bump _ _) (Machine.alike_bump _ _)
  · exact h.machine

lemma tick (h : e.Alike f) (cpu : Nat) : (e.tick cpu).Alike (f.tick cpu) := by
  have hcore := h.machine.core cpu
  unfold Engine.tick
  rcases hc : e.core? cpu with _ | c <;> rw [hc] at hcore
  · rw [Option.map_eq_none_iff.1 hcore]
    exact h
  · obtain ⟨d, hd, -⟩ := Option.map_eq_some_iff.1 hcore
    have hsampled := h.machine.modifyCore cpu
      (f := fun c => { c with perf := c.perf.sample (e.host.perfOf cpu) e.host.now }) (by
        rintro ⟨run, stats, perf⟩ ⟨run', stats', perf'⟩ hactivity
        cases hactivity
        rfl)
    rw [hd, h.machine.host]
    refine h.onMachine _ _ ?_
    dsimp only
    rw [hsampled.topology, hsampled.monitorCpu]
    split
    · exact hsampled.noting (Machine.alike_checkImbalance _) (Machine.alike_checkImbalance _)
    · exact hsampled

lemma noteProfileMatch (h : e.Alike f) (task : Task) :
    (e.noteProfileMatch task).Alike (f.noteProfileMatch task) := by
  unfold Engine.noteProfileMatch
  exact h.noting fun m => m.alike_emit _

end Alike

/-- Reading events changes only what is observed. -/
lemma alike_readEvents (e : Engine) : e.Alike e.readEvents.2 :=
  ⟨e.toMachine.alike_note e.counters _, rfl, rfl, rfl⟩

/-- Two engines that are alike answer each call alike, and stay alike. -/
lemma Alike.after (h : e.Alike f) (c : EngineCall) :
    f.answer c = e.answer c ∧ (e.after c).Alike (f.after c) := by
  cases c with
  | selectCpu task prev =>
    obtain ⟨hcpu, halike⟩ := h.selectCpu task prev
    exact ⟨congrArg EngineAnswer.core hcpu, halike⟩
  | enqueue task => exact ⟨rfl, h.enqueue task⟩
  | dispatch cpu =>
    obtain ⟨hfound, halike⟩ := h.dispatch cpu
    exact ⟨congrArg EngineAnswer.task hfound, halike⟩
  | running task => exact ⟨rfl, h.running task⟩
  | stopping task runnable => exact ⟨rfl, h.stopping task runnable⟩
  | tick cpu => exact ⟨rfl, h.tick cpu⟩
  | noteProfileMatch task => exact ⟨rfl, h.noteProfileMatch task⟩
  | taskExit pid =>
    refine ⟨?_, h.machine, congrArg (·.remove pid) h.tasks, congrArg (·.remove pid) h.queues,
      h.exitReason⟩
    rw [answer, answer, h.tasks]
  | exit reason =>
    exact ⟨rfl, h.machine, h.tasks, h.queues, congrArg (Option.or · (some reason)) h.exitReason⟩
  | readEvents => exact ⟨rfl, (e.alike_readEvents.symm.trans h).trans f.alike_readEvents⟩
  | settings tunables => exact ⟨rfl, { h.machine with tunables := rfl }, h.tasks, h.queues, h.exitReason⟩
  | knowledge hints => exact ⟨rfl, { h.machine with hints := rfl }, h.tasks, h.queues, h.exitReason⟩
  | platform host => exact ⟨rfl, h.onHost fun _ => host⟩

/-! ## Runs -/

end Engine

/-- Anything that may happen while an engine works.  Unlike a call that hands the engine another
platform, a change of the platform may depend on what the engine asked it for. -/
inductive Happening where
  /-- Something that may happen to an engine. -/
  | call (c : EngineCall)
  /-- The platform changes. -/
  | platform (react : Host → Host)
  /-- Somebody reads the oldest event. -/
  | readEvent

/-- Whether nothing happens but that somebody reads events. -/
def Happening.isReading : Happening → Bool
  | call .readEvents => true
  | readEvent => true
  | _ => false

namespace Engine

variable {e f : Engine} {x : Happening} {xs ys : List Happening}

/-- Read the oldest event that waits, if one does. -/
def readEvent (e : Engine) : Engine :=
  e.onMachine fun m => { m with events := (m.events.pop?.map (·.2)).getD m.events }

/-- The engine after something happened. -/
def undergo (e : Engine) : Happening → Engine
  | .call c => e.after c
  | .platform react => e.onHost react
  | .readEvent => e.readEvent

/-- The engine after several things happened in order. -/
def undergoAll (e : Engine) (xs : List Happening) : Engine := xs.foldl undergo e

/-- What the engine answers. -/
def reply (e : Engine) : Happening → EngineAnswer
  | .call c => e.answer c
  | _ => .nothing

/-- What the engine answers, in order, but to those who read events. -/
def replies (e : Engine) : List Happening → List EngineAnswer
  | [] => []
  | x :: xs => (if x.isReading then [] else [e.reply x]) ++ (e.undergo x).replies xs

/-- Reading events changes only what is observed. -/
lemma alike_undergo_of_isReading (e : Engine) (hx : x.isReading = true) :
    e.Alike (e.undergo x) := by
  cases x with
  | call c =>
    cases c with
    | readEvents => exact e.alike_readEvents
    | _ => cases hx
  | platform react => cases hx
  | readEvent => exact ⟨e.toMachine.alike_note e.counters _, rfl, rfl, rfl⟩

lemma Alike.undergo (h : e.Alike f) (x : Happening) :
    f.reply x = e.reply x ∧ (e.undergo x).Alike (f.undergo x) := by
  cases x with
  | call c => exact h.after c
  | platform react => exact ⟨rfl, h.onHost react⟩
  | readEvent =>
    have hread := fun e : Engine => e.alike_undergo_of_isReading (x := .readEvent) rfl
    exact ⟨rfl, ((hread e).symm.trans h).trans (hread f)⟩

/-- An engine whose events nobody reads does the same as one whose events are read. -/
lemma Alike.unread (h : e.Alike f) (xs : List Happening) :
    f.replies (xs.filter (!·.isReading)) = e.replies xs ∧
      (e.undergoAll xs).Alike (f.undergoAll (xs.filter (!·.isReading))) := by
  induction xs generalizing e f with
  | nil => exact ⟨rfl, h⟩
  | cons x xs ih =>
    cases hx : x.isReading with
    | true =>
      rw [List.filter_cons_of_neg (by simp [hx]), replies, hx]
      exact ih ((e.alike_undergo_of_isReading hx).symm.trans h)
    | false =>
      obtain ⟨hreply, halike⟩ := h.undergo x
      obtain ⟨hreplies, hend⟩ := ih halike
      rw [List.filter_cons_of_pos (by simp [hx]), replies, replies, hx, hreply, hreplies]
      exact ⟨rfl, hend⟩

/-- What is observed decides nothing.  Take two engines that differ at most in how many events may
wait, in the events, in the counters and in the statistics of cores, and let the same happen to both,
but for who reads events, when, and whether anybody does.  Then they answer the same, and differ in
the end again at most in what is observed: they track the same tasks, in the same state, the same
tasks wait in their queues, the same runs in domains and on cores, and they asked the same of the
platform. -/
theorem observers_decide_nothing (h : e.Alike f)
    (hxy : xs.filter (!·.isReading) = ys.filter (!·.isReading)) :
    f.replies ys = e.replies xs ∧ (e.undergoAll xs).Alike (f.undergoAll ys) := by
  obtain ⟨hreplies, hend⟩ := h.unread xs
  obtain ⟨hreplies', hend'⟩ := (Alike.refl f).unread ys
  rw [hxy] at hreplies hend
  exact ⟨hreplies'.symm.trans hreplies, hend.trans hend'.symm⟩

/-- Two engines on which nothing has happened yet are alike if their settings differ in nothing but
how many events may wait. -/
lemma alike_start {t : Topology} {config : EngineConfig} {tunables : TunablesCell} {hints : Hints}
    {host : Host} {capacity : Nat} (he : start t config tunables hints host = .ok e)
    (hf : start t { config with eventCapacity := capacity } tunables hints host = .ok f) :
    e.Alike f := by
  obtain ⟨queues, hqueues, hstart⟩ := exists_start t config tunables hints host
  obtain ⟨queues', hqueues', hstart'⟩ :=
    exists_start t { config with eventCapacity := capacity } tunables hints host
  obtain rfl := Except.ok.inj (hstart.symm.trans he)
  obtain rfl := Except.ok.inj (hstart'.symm.trans hf)
  obtain rfl := Except.ok.inj (hqueues.symm.trans hqueues')
  exact ⟨⟨rfl, ⟨capacity, rfl⟩, rfl, rfl, rfl, rfl, rfl⟩, rfl, rfl, rfl⟩

/-- An engine like `onTwoDomains` that has room for one event only, and has counted before. -/
def onTwoDomainsWorn : Engine :=
  { onTwoDomains with
    config := { onTwoDomains.config with eventCapacity := 1 }
    counters := onTwoDomains.counters.bump .preemptKicks
    cores := #[{ stats := { busy := 7 } }, {}]
    events := .ofCapacity 1 }

/-- A task of the given name. -/
def player (pid : Nat) (name : String) : Task :=
  { pid := pid, tgid := pid, name := .ofString name, allowed := .firstN 2 }

/-- A compiler runs on the only idle core, gives way to a game that is enqueued there, and the game
is handed out. -/
def crowdedCore : List Happening :=
  [.platform (·.setIdle 1 false), .call (.selectCpu (player 3 "make") 0),
    .call (.running (player 3 "make")), .call (.selectCpu (player 5 "wine64") 0),
    .call (.enqueue (player 5 "wine64")), .call (.dispatch 0)]

/-- The same, while somebody reads some of the events. -/
def watchedCore : List Happening :=
  [.readEvent, .platform (·.setIdle 1 false), .call (.selectCpu (player 3 "make") 0),
    .call (.running (player 3 "make")), .call (.selectCpu (player 5 "wine64") 0),
    .call (.enqueue (player 5 "wine64")), .call .readEvents, .call (.dispatch 0)]

/-- An engine that starts with room for one event only is like `onTwoDomains`, and it stays so when
it counts. -/
lemma alike_onTwoDomainsWorn : onTwoDomains.Alike onTwoDomainsWorn := by
  have hstart : start .twoDomains { taskCapacity := 0, eventCapacity := 1 } none {}
      (.ofTopology .twoDomains) = .ok { onTwoDomains with
        config := { onTwoDomains.config with eventCapacity := 1 }
        events := .ofCapacity 1 } := rfl
  exact (alike_start start_twoDomains hstart).trans
    ⟨⟨rfl, ⟨1, rfl⟩, rfl, rfl, rfl, rfl, by decide +kernel⟩, rfl, rfl, rfl⟩

theorem observers_decide_nothing_watchedCore :
    onTwoDomains.Alike onTwoDomainsWorn ∧
      crowdedCore.filter (!·.isReading) = watchedCore.filter (!·.isReading) ∧
      onTwoDomainsWorn.replies watchedCore =
        [.nothing, .core 0, .nothing, .core 0, .nothing, .task (some ⟨5, 0, 3000000, 0⟩)] ∧
      (onTwoDomainsWorn.undergoAll watchedCore).host.kicks = #[⟨0, { preempt := true }⟩] ∧
      (onTwoDomainsWorn.undergoAll watchedCore).events.dropped = 1 ∧
      (onTwoDomains.undergoAll crowdedCore).events.dropped = 0 := by
  have hsame : crowdedCore.filter (!·.isReading) = watchedCore.filter (!·.isReading) := rfl
  obtain ⟨hreplies, hend⟩ := observers_decide_nothing alike_onTwoDomainsWorn hsame
  refine ⟨alike_onTwoDomainsWorn, hsame, hreplies.trans ?_, ?_, ?_⟩
  · decide +kernel
  · rw [hend.machine.host]
    decide +kernel
  · decide +kernel

end Engine

end CoreSteer
