import CoreSteer.Proofs.Engine.Calls
/-!
# What is found out about tasks

What the engine finds out about a task are its `Findings`: flags, the class of its work, when it was
classified and the domain it should run in.  Of all that may happen to an engine only the waking up
of the task writes them, and only if the task is tracked and comes from a core that exists; a task
that comes to be tracked begins without findings, and one that is gone has none.

Findings are written flag by flag under settings that may change in between.  They are
`Findings.Consistent` all the same, since each waking up derives all flags that depend on the
settings anew, from a classification that is kept.
-/
namespace CoreSteer

/-- What was found out about a task. -/
structure Findings where
  /-- The flags. -/
  flags : TaskFlags := {}
  /-- The class of its work. -/
  workload : WorkloadClass := .unknown
  /-- When it was classified. -/
  classifiedAt : Nat := 0
  /-- The domain it should run in. -/
  preferredDomain : Option Nat := none
deriving DecidableEq

/-- What was found out about a task, out of what is remembered of it. -/
def TaskState.findings (s : TaskState) : Findings where
  flags := s.flags
  workload := s.workload
  classifiedAt := s.classifiedAt
  preferredDomain := s.preferredDomain

/-- Changing a task but for its findings changes no findings. -/
lemma TaskTable.Sound.findings_modify {t : TaskTable} (h : t.Sound) (pid : Nat)
    {f : TaskState → TaskState} (hf : ∀ s, (f s).findings = s.findings) (p : Nat) :
    ((t.modify pid f).get? p).map (·.findings) = (t.get? p).map (·.findings) := by
  obtain ⟨-, hself, hothers⟩ := h.modify pid f
  by_cases hp : p = pid
  · rw [hp, hself, Option.map_map]
    exact congrArg (fun g => (t.get? pid).map g) (funext hf)
  · rw [hothers p hp]

namespace Engine

/-- What was found out about a task, if it is tracked. -/
def findings? (e : Engine) (pid : Nat) : Option Findings := (e.task? pid).map (·.findings)

/-- What is remembered of a task that wakes up, if that is to be refreshed: there is room for the
task in the table, and it comes from a core that exists. -/
def woken? (e : Engine) (task : Task) (prev : Nat) : Option TaskState :=
  match (e.tasks.track task.pid).get? task.pid, e.topology.core? prev with
  | some s, some _ => some s
  | _, _ => none

variable {e : Engine}

lemma woken?_eq_some_iff {task : Task} {prev : Nat} {s : TaskState} :
    e.woken? task prev = some s ↔
      (e.tasks.track task.pid).get? task.pid = some s ∧ ∃ core, e.topology.core? prev = some core := by
  unfold woken?
  rcases (e.tasks.track task.pid).get? task.pid with _ | s' <;>
    rcases e.topology.core? prev with _ | core <;> simp

lemma get?_track_of_woken? {task : Task} {prev : Nat} {s : TaskState}
    (h : e.woken? task prev = some s) : (e.tasks.track task.pid).get? task.pid = some s :=
  (woken?_eq_some_iff.1 h).1

/-! ## The table of tracked tasks after a call -/

lemma tasks_settle (e : Engine) (task : Task) (prev : Nat) (found : Option Nat) :
    (e.settle task prev found).2.tasks = e.tasks := by
  obtain ⟨_, _, -, hsettled⟩ := e.exists_settle task prev found
  rw [hsettled]
  rfl

/-- The core that is found for a task that wakes up, and the machine after the search: what is known
of the task is refreshed first. -/
def seekCore (e : Engine) (task : Task) (s : TaskState) (prev : Nat) : Option Nat × Machine :=
  let (s, m) := e.toMachine.refresh task s prev
  m.place e.strategy task s prev

lemma selectCpu_of_woken? {task : Task} {prev : Nat} {s : TaskState}
    (h : e.woken? task prev = some s) :
    e.selectCpu task prev =
      ((e.onTasks fun t =>
        (t.track task.pid).put task.pid (e.toMachine.refresh task s prev).1).onMachine fun _ =>
          (e.seekCore task s prev).2).settle task prev (e.seekCore task s prev).1 := by
  rcases e with ⟨m, tasks, queues, reason⟩
  obtain ⟨hs, core, hcore⟩ := woken?_eq_some_iff.1 h
  unfold selectCpu
  dsimp only [onTasks, onMachine, task?] at hs hcore ⊢
  rw [hs, hcore]
  rfl

lemma selectCpu_of_not_woken? {task : Task} {prev : Nat} (h : e.woken? task prev = none) :
    e.selectCpu task prev = (prev, e.onTasks (·.track task.pid)) := by
  rcases e with ⟨m, tasks, queues, reason⟩
  unfold selectCpu
  dsimp only [onTasks, onMachine, task?]
  rcases hs : (tasks.track task.pid).get? task.pid with _ | s
  · rfl
  · rcases hcore : m.topology.core? prev with _ | core
    · rfl
    · have hwoken : (⟨m, tasks, queues, reason⟩ : Engine).woken? task prev = some s :=
        woken?_eq_some_iff.2 ⟨hs, core, hcore⟩
      rw [h] at hwoken
      cases hwoken

lemma tasks_selectCpu_of_woken? {task : Task} {prev : Nat} {s : TaskState}
    (h : e.woken? task prev = some s) :
    (e.selectCpu task prev).2.tasks =
      (e.tasks.track task.pid).put task.pid (e.toMachine.refresh task s prev).1 := by
  rw [selectCpu_of_woken? h, tasks_settle]
  rfl

lemma tasks_selectCpu_of_not_woken? {task : Task} {prev : Nat} (h : e.woken? task prev = none) :
    (e.selectCpu task prev).2.tasks = e.tasks.track task.pid := by
  rw [selectCpu_of_not_woken? h]
  rfl

/-- Where a task comes from a core that exists and is not refreshed, the table has no room for it. -/
lemma task?_selectCpu_of_not_woken? {task : Task} {prev : Nat} (h : e.woken? task prev = none)
    (hprev : (e.topology.core? prev).isSome) : (e.selectCpu task prev).2.task? task.pid = none := by
  obtain ⟨core, hcore⟩ := Option.isSome_iff_exists.1 hprev
  rw [task?, tasks_selectCpu_of_not_woken? h]
  rcases hs : (e.tasks.track task.pid).get? task.pid with _ | s
  · rfl
  · rw [woken?_eq_some_iff.2 ⟨hs, core, hcore⟩] at h
    cases h

lemma tasks_enqueue (e : Engine) (task : Task) :
    (e.enqueue task).tasks = (e.tasks.track task.pid).modify task.pid fun s =>
      { s with
        enqueuedAt := e.host.now
        lastDomain := (e.topology.domainOf? task.cpu).or s.lastDomain } := by
  rcases e with ⟨m, tasks, queues, reason⟩
  unfold enqueue TaskTable.modify
  dsimp only [onTasks, onMachine, task?]
  cases (tasks.track task.pid).get? task.pid <;> rfl

/-- A call that changes what is remembered of one task changes nothing of what is remembered of the
others. -/
lemma task?_of_modify {e' : Engine} (h : e.tasks.Sound) {pid : Nat} {f : TaskState → TaskState}
    (ht : e'.tasks = e.tasks.modify pid f) :
    e'.task? pid = (e.task? pid).map f ∧ ∀ p, p ≠ pid → e'.task? p = e.task? p := by
  obtain ⟨-, hself, hothers⟩ := h.modify pid f
  exact ⟨by rw [task?, ht]; exact hself, fun p hp => by rw [task?, ht]; exact hothers p hp⟩

/-- The table of tracked tasks stays in order. -/
lemma sound_after (h : e.tasks.Sound) (c : EngineCall) : (e.after c).tasks.Sound := by
  have hsound : ∀ {tasks : TaskTable}, (e.after c).tasks = tasks → tasks.Sound →
      (e.after c).tasks.Sound := fun heq hs => heq.symm ▸ hs
  cases c with
  | selectCpu task prev =>
    obtain ⟨_, _, tasks, -, -, hrevised, hr⟩ := e.result_selectCpu task prev
    exact hsound hr.tasks_eq (h.revised hrevised).1
  | enqueue task =>
    obtain ⟨_, _, tasks, hrevised, hr⟩ := e.result_enqueue task
    exact hsound hr.tasks_eq (h.revised hrevised).1
  | dispatch cpu =>
    rcases hp : e.queues.popFirst? (drainOrder e.topology cpu) with _ | ⟨w, queues⟩
    · exact hsound (e.result_dispatch_none hp).2.tasks_eq h
    · exact hsound (e.result_dispatch_some hp).2.tasks_eq h
  | running task => exact hsound (e.result_running task).tasks_eq (h.modify _ _).1
  | stopping task runnable =>
    exact hsound (e.result_stopping task runnable).tasks_eq (h.modify _ _).1
  | tick cpu => exact hsound (e.result_tick cpu).tasks_eq h
  | taskExit pid => exact hsound (e.result_taskExit pid).tasks_eq (h.remove pid).1
  | noteProfileMatch | exit | readEvents | settings | knowledge | platform => exact h

/-! ## What becomes of findings -/

/-- What becomes of the findings about a task when something happens to the engine. -/
inductive Learns (e : Engine) (pid : Nat) : EngineCall → Prop where
  /-- They are kept. -/
  | kept (c : EngineCall) (h : (e.after c).findings? pid = e.findings? pid) : Learns e pid c
  /-- The task comes to be tracked. -/
  | new (c : EngineCall) (hnone : e.findings? pid = none)
      (h : (e.after c).findings? pid = some {}) : Learns e pid c
  /-- The task wakes up, and what is known of it is refreshed. -/
  | refreshed (task : Task) (prev : Nat) (s : TaskState) (hpid : task.pid = pid)
      (hs : e.woken? task prev = some s)
      (h : (e.after (.selectCpu task prev)).task? pid =
        some (e.toMachine.refresh task s prev).1) : Learns e pid (.selectCpu task prev)
  /-- The task is gone. -/
  | forgotten (h : (e.after (.taskExit pid)).task? pid = none) : Learns e pid (.taskExit pid)

/-- Calls that leave the table of tracked tasks alone keep all findings. -/
lemma Learns.of_tasks_eq {pid : Nat} {c : EngineCall} (h : (e.after c).tasks = e.tasks) :
    Learns e pid c :=
  .kept c (by rw [findings?, findings?, task?, task?, h])

/-- Calls that change a tracked task but for its findings keep all findings. -/
lemma Learns.of_modify {pid p : Nat} {c : EngineCall} (hs : e.tasks.Sound)
    {f : TaskState → TaskState} (hf : ∀ s, (f s).findings = s.findings)
    (h : (e.after c).tasks = e.tasks.modify p f) : Learns e pid c :=
  .kept c (by rw [findings?, task?, h]; exact hs.findings_modify p hf pid)

/-- Calls that track a task and change it but for its findings keep all findings, or the task is
new. -/
lemma Learns.of_track {pid p : Nat} {c : EngineCall} (hs : e.tasks.Sound)
    (h : (e.after c).findings? pid = ((e.tasks.track p).get? pid).map (·.findings)) :
    Learns e pid c := by
  by_cases hp : pid = p
  · subst hp
    rcases hs.get?_track_self pid with hself | ⟨hnone, hself⟩
    · exact .kept c (by rw [h, hself]; rfl)
    · exact .new c (by rw [findings?, task?, hnone]; rfl) (by rw [h, hself]; rfl)
  · exact .kept c (by rw [h, (hs.track p).2 pid hp]; rfl)

/-- A task that wakes up, and is to be refreshed, is refreshed. -/
lemma task?_selectCpu_of_woken? (h : e.tasks.Sound) {task : Task} {prev : Nat} {s : TaskState}
    (hs : e.woken? task prev = some s) :
    (e.selectCpu task prev).2.task? task.pid = some (e.toMachine.refresh task s prev).1 := by
  obtain ⟨-, hself, -⟩ := (h.track task.pid).1.modify task.pid fun _ =>
    (e.toMachine.refresh task s prev).1
  rw [task?, tasks_selectCpu_of_woken? hs, TaskTable.put_eq_modify, hself,
    get?_track_of_woken? hs, Option.map_some]

/-- Each call keeps the findings about a task, or is the waking up of that task or its end. -/
lemma learns_after (h : e.tasks.Sound) (pid : Nat) (c : EngineCall) : Learns e pid c := by
  cases c with
  | selectCpu task prev =>
    rcases hs : e.woken? task prev with _ | s
    · refine .of_track h (p := task.pid) ?_
      rw [findings?, task?, after, tasks_selectCpu_of_not_woken? hs]
    · by_cases hp : pid = task.pid
      · subst hp
        exact .refreshed task prev s rfl hs (task?_selectCpu_of_woken? h hs)
      · obtain ⟨htrack, hget⟩ := h.track task.pid
        obtain ⟨-, -, hothers⟩ := htrack.modify task.pid fun _ =>
          (e.toMachine.refresh task s prev).1
        refine .kept _ ?_
        rw [findings?, task?, after, tasks_selectCpu_of_woken? hs, TaskTable.put_eq_modify,
          hothers pid hp, hget pid hp]
        rfl
  | enqueue task =>
    refine .of_track h (p := task.pid) ?_
    rw [findings?, task?, after, tasks_enqueue]
    refine (h.track task.pid).1.findings_modify task.pid ?_ pid
    exact fun _ => rfl
  | dispatch cpu =>
    rcases hp : e.queues.popFirst? (drainOrder e.topology cpu) with _ | ⟨w, queues⟩
    · exact .of_tasks_eq (e.result_dispatch_none hp).2.tasks_eq
    · exact .of_tasks_eq (e.result_dispatch_some hp).2.tasks_eq
  | running task =>
    refine .of_modify h ?_ (e.result_running task).tasks_eq
    exact fun _ => rfl
  | stopping task runnable =>
    refine .of_modify h ?_ (e.result_stopping task runnable).tasks_eq
    exact fun _ => rfl
  | tick cpu => exact .of_tasks_eq (e.result_tick cpu).tasks_eq
  | taskExit p =>
    have htasks : (e.after (.taskExit p)).tasks = e.tasks.remove p :=
      (e.result_taskExit p).tasks_eq
    by_cases hp : pid = p
    · subst hp
      exact .forgotten (by rw [task?, htasks, h.get?_remove_self])
    · exact .kept _ (by rw [findings?, task?, htasks, (h.remove p).2 pid hp]; rfl)
  | noteProfileMatch | exit | readEvents | settings | knowledge | platform =>
    exact .of_tasks_eq rfl

end Engine

/-! ## Classifications -/

/-- What a classification says fits together. -/
structure Classification.Coherent (r : Classification) : Prop where
  /-- What runs in a compatibility layer or feeds the graphics card is gaming. -/
  detected : r.proton ∨ r.gpuFeeder → r.gaming
  /-- What is gaming does gaming work. -/
  workload : r.gaming → r.workload = .gaming

namespace Classification

lemma coherent_ofHit (hit : GameHit) (gpuFeeder : Bool) : (ofHit hit gpuFeeder).Coherent :=
  ⟨fun _ => rfl, fun _ => rfl⟩

lemma coherent_other (workload : WorkloadClass) : (other workload).Coherent :=
  ⟨fun h => absurd h (by simp [other]), fun h => by cases h⟩

end Classification

/-- Whichever source decides, what it says fits together. -/
lemma cascade_coherent (h : Hints) (host : Host) (task : Task) (c : Counters) :
    (cascade h host task c).1.Coherent := by
  unfold cascade
  dsimp only
  split
  · exact Classification.coherent_ofHit _ _
  · split
    · exact Classification.coherent_ofHit _ _
    · split
      · exact Classification.coherent_ofHit _ _
      · split
        · exact Classification.coherent_ofHit _ _
        · split
          · exact Classification.coherent_ofHit _ _
          · exact Classification.coherent_other _

namespace Machine

variable (m : Machine) (task : Task) (s : TaskState)

/-- A classified task keeps its classification, whatever is known about it by now. -/
lemma classify_of_classified {s : TaskState} (h : s.flags.classified = true) :
    m.classify task s = (.ofState s, s, m) := if_pos h

/-- The state of a task that is not classified yet keeps the answer of the sources. -/
lemma state_classify_of_unclassified {s : TaskState} (h : s.flags.classified = false) :
    (m.classify task s).2.1 = s.remember (m.classifyAnew task).1 m.host.now := by
  rw [classify, if_neg (by rw [h]; exact Bool.false_ne_true)]
  rfl

/-- The state of a task keeps its classification. -/
lemma ofState_classify :
    .ofState (m.classify task s).2.1 = (m.classify task s).1 := by
  unfold classify
  split <;> rfl

lemma classified_classify : (m.classify task s).2.1.flags.classified = true := by
  unfold classify
  split
  · assumption
  · rfl

lemma burst_classify : (m.classify task s).2.1.burst = s.burst := by
  unfold classify
  split <;> rfl

/-! ## Refreshing -/

/-- Refreshing writes no flag that belongs to the classification. -/
lemma ofState_refresh (prev : Nat) :
    .ofState (m.refresh task s prev).1 = (m.classify task s).1 :=
  m.ofState_classify task s

lemma classified_refresh (prev : Nat) : (m.refresh task s prev).1.flags.classified = true :=
  m.classified_classify task s

lemma burst_refresh (prev : Nat) : (m.refresh task s prev).1.burst = s.burst :=
  m.burst_classify task s

/-- The flags that depend on settings are derived from the classification. -/
lemma flags_refresh (prev : Nat) :
    let f := (m.refresh task s prev).1.flags
    f.gaming = (m.tunables.load.gamingMode && f.classGaming) ∧
      f.interactive = (!f.gaming && decide (s.burst < m.tunables.load.burstThreshold)) ∧
      f.wantsLowLatency = (f.gaming || (f.interactive && m.tunables.load.gamingMode)) := by
  have hgaming := congrArg Classification.gaming (m.ofState_refresh task s prev)
  have hburst := m.burst_classify task s
  refine ⟨?_, ?_, rfl⟩
  · exact congrArg (m.tunables.load.gamingMode && ·) hgaming.symm
  · exact congrArg (fun b => !(_ && _) && decide (b < m.tunables.load.burstThreshold)) hburst

lemma preferredDomain_refresh {prev : Nat}
    (h : (m.refresh task s prev).1.flags.wantsLowLatency = true) :
    (m.refresh task s prev).1.preferredDomain = some m.topology.lowLatencyDomain := by
  obtain ⟨_, _, -, hn⟩ := m.noted_classify task s
  have htopology : (m.classify task s).2.2.topology = m.topology := by rw [hn]
  exact (if_pos h).trans (congrArg (fun t => some t.lowLatencyDomain) htopology)

end Machine

/-! ## Consistency -/

/-- Findings fit together, where `lowLatency` is the low-latency domain. -/
structure Findings.Consistent (lowLatency : Nat) (f : Findings) : Prop where
  /-- Nothing is known about a task that was not classified. -/
  unclassified : f.flags.classified = false → f.flags = {} ∧ f.workload = .unknown
  /-- A task that counts as gaming was classified so, and wants low latency. -/
  gaming : f.flags.gaming → f.flags.classGaming ∧ f.flags.wantsLowLatency
  /-- A task that counts as gaming does not count as interactive. -/
  apart : ¬ (f.flags.gaming ∧ f.flags.interactive)
  /-- Only gaming and interactive tasks want low latency, and they prefer the domain where it is
  low. -/
  wants : f.flags.wantsLowLatency →
    (f.flags.gaming ∨ f.flags.interactive) ∧ f.preferredDomain = some lowLatency
  /-- What runs in a compatibility layer or feeds the graphics card was classified as gaming. -/
  detected : f.flags.proton ∨ f.flags.gpuFeeder → f.flags.classGaming
  /-- What was classified as gaming does gaming work. -/
  workload : f.flags.classGaming → f.workload = .gaming

namespace Findings.Consistent

variable {lowLatency : Nat}

/-- When nothing was found out, it fits together. -/
lemma empty : ({} : Findings).Consistent lowLatency where
  unclassified _ := ⟨rfl, rfl⟩
  gaming h := by cases h
  apart h := by cases h.1
  wants h := by cases h
  detected h := by rcases h with h | h <;> cases h
  workload h := by cases h

/-- The classification that is kept in a state fits together if the findings do. -/
lemma coherent {s : TaskState} (h : s.findings.Consistent lowLatency) :
    (Classification.ofState s).Coherent :=
  ⟨h.detected, h.workload⟩

end Findings.Consistent

namespace Machine

variable {m : Machine} {s : TaskState}

lemma coherent_classify (h : s.findings.Consistent m.topology.lowLatencyDomain) (task : Task) :
    (m.classify task s).1.Coherent := by
  unfold classify
  split
  · exact h.coherent
  · exact cascade_coherent _ _ _ _

/-- Refreshing keeps findings consistent: the flags that depend on settings are all derived anew, and
the others are those of the classification. -/
lemma consistent_refresh (h : s.findings.Consistent m.topology.lowLatencyDomain) (task : Task)
    (prev : Nat) :
    (m.refresh task s prev).1.findings.Consistent m.topology.lowLatencyDomain := by
  have hr : (Classification.ofState (m.refresh task s prev).1).Coherent := by
    rw [ofState_refresh]
    exact coherent_classify h task
  have hclassified := m.classified_refresh task s prev
  obtain ⟨hgaming, hinteractive, hwants⟩ := m.flags_refresh task s prev
  refine ⟨fun hno => ?_, fun hg => ⟨?_, ?_⟩, fun ⟨hg, hi⟩ => ?_, fun hw => ⟨?_, ?_⟩, hr.detected,
    hr.workload⟩
  · exact absurd (hclassified.symm.trans hno) (by decide)
  · exact (Bool.and_eq_true _ _ ▸ hgaming.symm.trans hg).2
  · exact hwants.trans (Bool.or_eq_true_iff.2 (.inl hg))
  · rw [show (m.refresh task s prev).1.flags.gaming = true from hg, Bool.not_true,
      Bool.false_and] at hinteractive
    exact absurd (hinteractive.symm.trans hi) (by decide)
  · rcases Bool.or_eq_true_iff.1 (hwants.symm.trans hw) with hg | hi
    · exact .inl hg
    · exact .inr (Bool.and_eq_true_iff.1 hi).1
  · exact m.preferredDomain_refresh task s hw

end Machine

/-! ## Runs -/

namespace Engine

/-- The findings about all tracked tasks fit together. -/
structure Consistent (t : Topology) (e : Engine) : Prop where
  /-- The engine is for this topology. -/
  topology : e.topology = t
  /-- The table of tracked tasks is in order. -/
  sound : e.tasks.Sound
  /-- All findings are consistent. -/
  findings : ∀ pid f, e.findings? pid = some f → f.Consistent t.lowLatencyDomain

namespace Consistent

variable {t : Topology} {e : Engine}

/-- What a task is refreshed from fits together, also if the task is new. -/
lemma woken (h : e.Consistent t) {task : Task} {prev : Nat} {s : TaskState}
    (hs : e.woken? task prev = some s) : s.findings.Consistent t.lowLatencyDomain := by
  have htrack := get?_track_of_woken? hs
  rcases h.sound.get?_track_self task.pid with hself | ⟨-, hself⟩
  · refine h.findings task.pid _ ?_
    rw [findings?, task?, ← hself, htrack, Option.map_some]
  · obtain rfl : {} = s := Option.some.inj (hself.symm.trans htrack)
    exact .empty

lemma after (h : e.Consistent t) (c : EngineCall) : (e.after c).Consistent t := by
  refine ⟨(e.topology_after c).trans h.topology, sound_after h.sound c, fun pid f hf => ?_⟩
  cases learns_after h.sound pid c with
  | kept c hkept => exact h.findings pid f (hkept.symm.trans hf)
  | new c _ hnew =>
    obtain rfl : {} = f := Option.some.inj (hnew.symm.trans hf)
    exact .empty
  | refreshed task prev s hpid hs hrefreshed =>
    rw [findings?, hrefreshed, Option.map_some] at hf
    rw [← Option.some.inj hf, ← h.topology]
    exact Machine.consistent_refresh (h.topology.symm ▸ h.woken hs) task prev
  | forgotten hnone =>
    rw [findings?, hnone] at hf
    cases hf

lemma afterAll (h : e.Consistent t) (cs : List EngineCall) : (e.afterAll cs).Consistent t := by
  induction cs generalizing e with
  | nil => exact h
  | cons c cs ih => exact ih (h.after c)

/-- When nothing has happened, no task is tracked. -/
lemma start (t : Topology) (config : EngineConfig) (tunables : TunablesCell) (hints : Hints)
    (host : Host) (queues : DispatchQueues) :
    Consistent t ⟨.make t config tunables hints host, .ofCapacity config.taskCapacity, queues,
      none⟩ where
  topology := rfl
  sound := TaskTable.sound_ofCapacity _
  findings pid f hf := by
    rw [findings?, task?, TaskTable.get?_ofCapacity] at hf
    cases hf

/-- A task that has just woken up has the flags that its classification and the settings of now
give. -/
lemma flags_selectCpu (h : e.Consistent t) {task : Task} {prev : Nat} {s : TaskState}
    (hprev : (t.core? prev).isSome) (hs : (e.selectCpu task prev).2.task? task.pid = some s) :
    s.flags.classified = true ∧
      s.flags.gaming = (e.tunables.load.gamingMode && s.flags.classGaming) ∧
      s.flags.interactive =
        (!s.flags.gaming && decide (s.burst < e.tunables.load.burstThreshold)) ∧
      s.flags.wantsLowLatency =
        (s.flags.gaming || (s.flags.interactive && e.tunables.load.gamingMode)) := by
  rcases hw : e.woken? task prev with _ | s₀
  · rw [task?_selectCpu_of_not_woken? hw (h.topology.symm ▸ hprev)] at hs
    cases hs
  · rw [task?_selectCpu_of_woken? h.sound hw] at hs
    obtain rfl := Option.some.inj hs
    rw [Machine.burst_refresh]
    exact ⟨Machine.classified_refresh _ _ _ _, Machine.flags_refresh _ _ _ _⟩

end Consistent

/-- What is found out about tasks fits together.  From the start of an engine on, whatever happens
to it and in whatever order, the findings about each tracked task are consistent; and a task that has
just woken up from a core that exists counts as gaming, counts as interactive and wants low latency
exactly as its classification, its burst and the settings of that moment say. -/
theorem findings_stay_consistent (t : Topology) (config : EngineConfig) (tunables : TunablesCell)
    (hints : Hints) (host : Host) :
    ∃ e₀, start t config tunables hints host = .ok e₀ ∧
      ∀ calls e, e₀.afterAll calls = e →
        (∀ pid s, e.task? pid = some s → s.findings.Consistent t.lowLatencyDomain) ∧
        ∀ task prev s, (t.core? prev).isSome →
          (e.selectCpu task prev).2.task? task.pid = some s →
            s.flags.classified = true ∧
            s.flags.gaming = (e.tunables.load.gamingMode && s.flags.classGaming) ∧
            s.flags.interactive =
              (!s.flags.gaming && decide (s.burst < e.tunables.load.burstThreshold)) ∧
            s.flags.wantsLowLatency =
              (s.flags.gaming || (s.flags.interactive && e.tunables.load.gamingMode)) := by
  obtain ⟨queues, -, hstart⟩ := exists_start t config tunables hints host
  refine ⟨_, hstart, fun calls e he => ?_⟩
  have h := (Consistent.start t config tunables hints host queues).afterAll calls
  rw [he] at h
  refine ⟨fun pid s hs => h.findings pid _ ?_, fun task prev s => h.flags_selectCpu⟩
  rw [findings?, hs, Option.map_some]

/-- A game wakes up while gaming is favoured, and then gaming goes out of favour. -/
def disfavouredGame : List EngineCall :=
  [.selectCpu { pid := 5, tgid := 5, name := .ofString "wine64", allowed := .firstN 2 } 0,
    .settings (some { gamingMode := false })]

/-- The game by another name. -/
def renamedGame : Task := { pid := 5, tgid := 5, name := .ofString "make", allowed := .firstN 2 }

theorem findings_stay_consistent_disfavouredGame :
    (∃ s, (onTwoDomains.afterAll disfavouredGame).task? 5 = some s ∧ s.flags.gaming = true ∧
      s.findings.Consistent Topology.twoDomains.lowLatencyDomain) ∧
    ∃ s, ((onTwoDomains.afterAll disfavouredGame).selectCpu renamedGame 1).2.task? 5 = some s ∧
      s.flags.classGaming = true ∧ s.flags.gaming = false ∧ s.flags.interactive = true ∧
      s.flags.wantsLowLatency = false := by
  obtain ⟨e₀, hstart, h⟩ := findings_stay_consistent .twoDomains { taskCapacity := 0 } none {}
    (.ofTopology .twoDomains)
  obtain rfl : onTwoDomains = e₀ := Except.ok.inj (start_twoDomains.symm.trans hstart)
  obtain ⟨hconsistent, hflags⟩ := h disfavouredGame _ rfl
  have hgame : ((onTwoDomains.afterAll disfavouredGame).task? 5).map (·.flags.gaming) =
      some true := by decide +kernel
  have hrenamed : (((onTwoDomains.afterAll disfavouredGame).selectCpu renamedGame 1).2.task? 5).map
      (fun s => (s.flags.classGaming, s.burst)) = some (true, 0) := by decide +kernel
  obtain ⟨s, hs, hgaming⟩ := Option.map_eq_some_iff.1 hgame
  obtain ⟨s', hs', hkept⟩ := Option.map_eq_some_iff.1 hrenamed
  obtain ⟨hclass, hburst⟩ := Prod.mk.inj hkept
  obtain ⟨-, hgaming', hinteractive, hwants⟩ := hflags renamedGame 1 s' (by decide) hs'
  have hdisfavoured : (onTwoDomains.afterAll disfavouredGame).tunables.load =
      { gamingMode := false } := by decide +kernel
  rw [hdisfavoured] at hgaming' hinteractive hwants
  rw [hburst, hgaming'] at hinteractive
  rw [hgaming', hinteractive] at hwants
  exact ⟨⟨s, hs, hgaming, hconsistent 5 s hs⟩, s', hs', hclass, hgaming', hinteractive, hwants⟩

end Engine

end CoreSteer
