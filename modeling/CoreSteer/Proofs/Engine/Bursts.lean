import CoreSteer.Proofs.Engine.Favour
import CoreSteer.Proofs.Engine.Timesheet
/-!
# Long bursts

Whether a task is interactive is found out when it wakes up, from the burst that is remembered of it.
The burst grows with each run that the task does not end by itself, and starts over when the task
blocks; and a task wakes up only after it has blocked.  So where the platform keeps to the life cycle
of tasks (`Lives.Permits`), no task has a burst when it wakes up, and each counts as interactive if it
does not count as gaming.  Nobody looks at the burst again until the task blocks, so a task that never
blocks stays interactive, however long it runs (`hog_stays_interactive`).
-/
namespace CoreSteer

namespace Engine

/-- Only somebody from outside changes the settings. -/
lemma tunables_after (e : Engine) {c : EngineCall} (hc : ∀ tunables, c ≠ .settings tunables) :
    (e.after c).tunables = e.tunables := by
  cases c with
  | selectCpu task prev =>
    obtain ⟨_, _, -, -, ho⟩ := e.outcome_selectCpu task prev
    exact ho.tunables_eq
  | enqueue task =>
    obtain ⟨_, _, ho⟩ := e.outcome_enqueue task
    exact ho.tunables_eq
  | dispatch cpu =>
    rcases hp : e.queues.popFirst? (drainOrder e.topology cpu) with _ | ⟨w, queues⟩
    · exact (e.outcome_dispatch_none hp).2.tunables_eq
    · exact (e.outcome_dispatch_some hp).2.tunables_eq
  | running task => exact (e.outcome_running task).tunables_eq
  | stopping task runnable => exact (e.outcome_stopping task runnable).tunables_eq
  | tick cpu => exact (e.outcome_tick cpu).tunables_eq
  | noteProfileMatch task => exact (e.outcome_noteProfileMatch task).tunables_eq
  | taskExit pid => exact (e.outcome_taskExit pid).tunables_eq
  | settings tunables => exact absurd rfl (hc tunables)
  | exit | readEvents | knowledge | platform => rfl

end Engine

/-! ## The life cycle -/

/-- Where a task stands in its life. -/
inductive LifeStage where
  /-- It blocks, or nothing is known of it. -/
  | asleep
  /-- It could run, and does not. -/
  | waiting
  /-- It runs. -/
  | running
deriving DecidableEq

/-- Where each task stands in its life. -/
abbrev Lives := Nat → LifeStage

namespace Lives

/-- Nothing is known of any task. -/
def start : Lives := fun _ => .asleep

/-- Say where one task stands. -/
def set (l : Lives) (pid : Nat) (stage : LifeStage) : Lives := fun p => if p = pid then stage else l p

/-- A call is part of the life cycle of tasks, under settings that stay: a task wakes up only when it
sleeps, waits and begins to run only when it could run and does not, and ends its run only when it
runs. -/
def Permits (l : Lives) : EngineCall → Prop
  | .selectCpu task _ => l task.pid = .asleep
  | .enqueue task => l task.pid = .waiting
  | .running task => l task.pid = .waiting
  | .stopping task _ => l task.pid = .running
  | .settings _ => False
  | _ => True

/-- Where tasks stand after a call. -/
def after (l : Lives) : EngineCall → Lives
  | .selectCpu task _ => l.set task.pid .waiting
  | .running task => l.set task.pid .running
  | .stopping task runnable => l.set task.pid (if runnable then .waiting else .asleep)
  | .taskExit pid => l.set pid .asleep
  | _ => l

/-- Calls in order are part of the life cycle of tasks. -/
def PermitsAll (l : Lives) : List EngineCall → Prop
  | [] => True
  | c :: cs => l.Permits c ∧ (l.after c).PermitsAll cs

/-- Where tasks stand after calls in order. -/
def afterAll (l : Lives) (cs : List EngineCall) : Lives := cs.foldl after l

instance (l : Lives) : (c : EngineCall) → Decidable (l.Permits c)
  | .selectCpu _ _ | .enqueue _ | .running _ | .stopping _ _ => inferInstanceAs (Decidable (_ = _))
  | .settings _ => .isFalse id
  | .dispatch _ | .tick _ | .noteProfileMatch _ | .taskExit _ | .exit _ | .readEvents
  | .knowledge _ | .platform _ => .isTrue trivial

instance decidablePermitsAll (l : Lives) : (cs : List EngineCall) → Decidable (l.PermitsAll cs)
  | [] => .isTrue trivial
  | c :: cs =>
    have := decidablePermitsAll (l.after c) cs
    inferInstanceAs (Decidable (l.Permits c ∧ (l.after c).PermitsAll cs))

variable {l : Lives} {pid : Nat} {c : EngineCall}

lemma set_self (l : Lives) (pid : Nat) (stage : LifeStage) : l.set pid stage pid = stage := if_pos rfl

lemma set_of_ne (l : Lives) (stage : LifeStage) {p : Nat} (h : p ≠ pid) :
    l.set pid stage p = l p := if_neg h

/-- A task stands where it stood after a call that it is not about. -/
lemma after_of_ne (hc : c.pid? ≠ some pid) : l.after c pid = l pid := by
  cases c with
  | selectCpu task | running task | stopping task | taskExit =>
    exact set_of_ne _ _ fun hp => hc (congrArg some hp.symm)
  | _ => rfl

end Lives

/-! ## The invariant -/

namespace Engine

/-- Tasks sleep without a burst, so they had none when their class was found out. -/
structure Rested (l : Lives) (tunables : TunablesCell) (e : Engine) : Prop where
  /-- The table of tracked tasks is in order. -/
  sound : e.tasks.Sound
  /-- The settings are those of the beginning. -/
  settled : e.tunables = tunables
  /-- A task that sleeps has no burst. -/
  rested : ∀ pid s, l pid = .asleep → e.task? pid = some s → s.burst = 0
  /-- A task that does not count as gaming is interactive if it has woken up, unless no burst is
  short. -/
  derived : ∀ pid f, e.findings? pid = some f → f.flags.gaming = false →
    f.flags.interactive = (f.flags.classified && decide (0 < tunables.load.burstThreshold))

namespace Rested

variable {l : Lives} {tunables : TunablesCell} {e : Engine} {pid : Nat} {c : EngineCall}

/-- A task that sleeps after a call has no burst. -/
lemma rested_after (h : Rested l tunables e) (hp : l.Permits c) {s : TaskState}
    (hasleep : l.after c pid = .asleep) (hs : (e.after c).task? pid = some s) : s.burst = 0 := by
  by_cases hc : c.pid? = some pid
  · cases c with
    | selectCpu task | running task =>
      obtain rfl : task.pid = pid := Option.some.inj hc
      cases (Lives.set_self _ _ _).symm.trans hasleep
    | enqueue task =>
      obtain rfl : task.pid = pid := Option.some.inj hc
      cases hp.symm.trans hasleep
    | stopping task runnable =>
      obtain rfl : task.pid = pid := Option.some.inj hc
      have hself := (task?_of_modify h.sound (e.result_stopping task runnable).tasks_eq).1
      obtain ⟨s₀, -, rfl⟩ := Option.map_eq_some_iff.1 (hself.symm.trans hs)
      -- a task that could go on does not sleep
      have hstage := (Lives.set_self _ _ _).symm.trans hasleep
      cases runnable with
      | false => rfl
      | true => cases hstage
    | taskExit p =>
      obtain rfl : p = pid := Option.some.inj hc
      rw [Engine.after, task?_taskExit_self h.sound] at hs
      cases hs
    | _ => cases hc
  · rw [task?_after_of_ne h.sound hc] at hs
    rw [Lives.after_of_ne hc] at hasleep
    exact h.rested pid s hasleep hs

/-- A task that is refreshed wakes up from sleep, without a burst. -/
lemma burst_of_woken? (h : Rested l tunables e) {task : Task} {prev : Nat} {s : TaskState}
    (hasleep : l task.pid = .asleep) (hs : e.woken? task prev = some s) : s.burst = 0 := by
  rcases h.sound.burst_track (get?_track_of_woken? hs) with ⟨s₀, hs₀, hburst⟩ | ⟨-, hzero⟩
  · rw [hburst, h.rested task.pid s₀ hasleep hs₀]
  · exact hzero

/-- The class of a task after a call. -/
lemma derived_after (h : Rested l tunables e) (hp : l.Permits c) {f : Findings}
    (hf : (e.after c).findings? pid = some f) (hgaming : f.flags.gaming = false) :
    f.flags.interactive = (f.flags.classified && decide (0 < tunables.load.burstThreshold)) := by
  by_cases hc : e.Refreshes pid c
  · obtain ⟨task, prev, s, rfl, rfl, hs⟩ := hc
    rw [findings?, Engine.after, task?_selectCpu_of_woken? h.sound hs, Option.map_some] at hf
    obtain rfl := Option.some.inj hf
    obtain ⟨-, hinteractive, -⟩ := e.toMachine.flags_refresh task s prev
    have hplain : (e.toMachine.refresh task s prev).1.flags.gaming = false := hgaming
    -- the task has slept until now, so what is compared with the threshold is zero
    rw [hplain, h.burst_of_woken? hp hs, h.settled] at hinteractive
    have hclassified := e.toMachine.classified_refresh task s prev
    dsimp only [TaskState.findings]
    rw [hinteractive, hclassified]
    rfl
  · rcases findings_of_not_refreshes h.sound hc hf with hold | rfl
    · exact h.derived pid f hold hgaming
    · rfl

lemma after (h : Rested l tunables e) (hp : l.Permits c) :
    Rested (l.after c) tunables (e.after c) where
  sound := sound_after h.sound c
  settled := by
    rw [e.tunables_after fun t ht => ?_, h.settled]
    subst ht
    exact hp
  rested _ _ hasleep hs := h.rested_after hp hasleep hs
  derived _ _ hf hgaming := h.derived_after hp hf hgaming

lemma afterAll (h : Rested l tunables e) {cs : List EngineCall} (hp : l.PermitsAll cs) :
    Rested (l.afterAll cs) tunables (e.afterAll cs) := by
  induction cs generalizing l e with
  | nil => exact h
  | cons c cs ih => exact ih (h.after hp.1) hp.2

/-- When nothing has happened, no task is tracked. -/
lemma start (t : Topology) (config : EngineConfig) (tunables : TunablesCell) (hints : Hints)
    (host : Host) (queues : DispatchQueues) :
    Rested .start tunables ⟨.make t config tunables hints host, .ofCapacity config.taskCapacity,
      queues, none⟩ where
  sound := TaskTable.sound_ofCapacity _
  settled := rfl
  rested pid s _ hs := by
    rw [task?, TaskTable.get?_ofCapacity] at hs
    cases hs
  derived pid f hf := by
    rw [findings?, task?, TaskTable.get?_ofCapacity] at hf
    cases hf

end Rested

/-! ## Runs -/

/-- Bursts do not tell batch work from interactive work.  From the start of an engine on, let the
platform keep to the life cycle of tasks and the settings stay.  A tracked task that does not count as
gaming is queued as batch work, however short its burst, if it has not woken up since its state was
created or no burst counts as short; otherwise it is queued as an interactive task, however long its
burst. -/
theorem bursts_decide_no_class (t : Topology) (config : EngineConfig) (tunables : TunablesCell)
    (hints : Hints) (host : Host) :
    ∃ e₀, start t config tunables hints host = .ok e₀ ∧
      ∀ calls e, Lives.PermitsAll .start calls → e₀.afterAll calls = e →
        ∀ task s, e.task? task.pid = some s → s.flags.gaming = false →
          (s.flags.classified = false ∨ tunables.load.burstThreshold = 0 →
            (e.enqueue task).queues =
              e.queues.insert (e.queueOf task) task.pid tunables.load.slice (s.burst / 100) ∧
            (e.enqueue task).counters.get .interactiveEnqueued =
              e.counters.get .interactiveEnqueued) ∧
          (s.flags.classified = true → 0 < tunables.load.burstThreshold →
            (e.enqueue task).queues =
              e.queues.insert (e.queueOf task) task.pid tunables.load.slice (s.burst / 1000) ∧
            (e.enqueue task).counters.get .interactiveEnqueued =
              wrap64 (e.counters.get .interactiveEnqueued + 1)) := by
  obtain ⟨queues, -, hstart⟩ := exists_start t config tunables hints host
  refine ⟨_, hstart, fun calls e hp he task s hs hgaming => ?_⟩
  have h := (Rested.start t config tunables hints host queues).afterAll hp
  rw [he] at h
  have hclass : s.flags.interactive =
      (s.flags.classified && decide (0 < tunables.load.burstThreshold)) :=
    h.derived task.pid s.findings (by rw [findings?, hs, Option.map_some]) hgaming
  have hcomes := e.comesWith_of_task? task h.sound hs
  have hqueues := e.queues_enqueue_eq task
  rw [h.settled, e.keyFor_of_comesWith task hcomes, hgaming] at hqueues
  obtain ⟨-, hcounters⟩ := e.enqueue_of_not_gaming task (by rw [hcomes]; exact hgaming)
  rw [hcomes, Option.any_some] at hcounters
  have hother : (e.counters.bump .enqueued).get .interactiveEnqueued =
      e.counters.get .interactiveEnqueued := Counters.get_bump_of_ne _ (by decide)
  refine ⟨fun hbatch => ?_, fun hclassified hshort => ?_⟩
  · have hplain : s.flags.interactive = false := by
      rw [hclass]
      rcases hbatch with hno | hzero
      · rw [hno, Bool.false_and]
      · rw [hzero, Bool.and_comm]
        rfl
    rw [hplain] at hqueues hcounters
    exact ⟨hqueues, by rw [hcounters]; exact hother⟩
  · have hinteractive : s.flags.interactive = true := by
      rw [hclass, hclassified, Bool.true_and]
      exact decide_eq_true hshort
    rw [hinteractive] at hqueues hcounters
    exact ⟨hqueues, by rw [hcounters, ← hother]; exact Counters.get_bump_self _ _⟩

/-- A compiler that was on core `prev` wakes up, and runs for ten milliseconds without blocking. -/
def hog (prev : Nat) : List EngineCall :=
  let clock (now : Nat) : EngineCall :=
    .platform { Host.ofTopology .twoDomains with idle := .empty, now := now }
  [clock 1000000, .selectCpu (player 3 "make") prev, .running (player 3 "make"), clock 11000000,
    .stopping (player 3 "make") true]

/-- The compiler that waits again is queued as an interactive task, and counted as one, though its
burst is not short. -/
theorem hog_stays_interactive :
    start .twoDomains { taskCapacity := 0 } none {} (.ofTopology .twoDomains) = .ok onTwoDomains ∧
      Lives.PermitsAll .start (hog 0 ++ [.enqueue (player 3 "make")]) ∧
      ((onTwoDomains.afterAll (hog 0)).task? 3).map (fun s => (s.flags.gaming, s.burst)) =
        some (false, 10000000) ∧
      (onTwoDomains.afterAll (hog 0)).tunables.load.burstThreshold = 2000000 ∧
      (((onTwoDomains.afterAll (hog 0)).enqueue (player 3 "make")).dispatch 0).1.map (·.vtime) =
        some (10000000 / 1000) ∧
      ((onTwoDomains.afterAll (hog 0)).counters.get .interactiveEnqueued = 0 ∧
        ((onTwoDomains.afterAll (hog 0)).enqueue (player 3 "make")).counters.get
          .interactiveEnqueued = 1) :=
  ⟨start_twoDomains, by decide +kernel⟩

theorem bursts_decide_no_class_hog :
    (∃ e, onTwoDomains.afterAll (hog 0) = e ∧ Lives.PermitsAll .start (hog 0) ∧
      (e.enqueue (player 3 "make")).queues = e.queues.insert (.domain 0) 3 3000000 10000 ∧
      (e.enqueue (player 3 "make")).counters.get .interactiveEnqueued = 1) ∧
    ∃ e, onTwoDomains.afterAll (hog 7) = e ∧ Lives.PermitsAll .start (hog 7) ∧
      (e.enqueue (player 3 "make")).queues = e.queues.insert (.domain 0) 3 3000000 100000 ∧
      (e.enqueue (player 3 "make")).counters.get .interactiveEnqueued = 0 := by
  obtain ⟨e₀, hstart, h⟩ := bursts_decide_no_class .twoDomains { taskCapacity := 0 } none {}
    (.ofTopology .twoDomains)
  obtain rfl : onTwoDomains = e₀ := Except.ok.inj (start_twoDomains.symm.trans hstart)
  have hpermits : Lives.PermitsAll .start (hog 0) ∧ Lives.PermitsAll .start (hog 7) := by
    decide +kernel
  have hknown : (((onTwoDomains.afterAll (hog 0)).task? 3).map fun s =>
        (s.flags.gaming, s.flags.classified, s.burst)) = some (false, true, 10000000) := by
    decide +kernel
  have hunknown : (((onTwoDomains.afterAll (hog 7)).task? 3).map fun s =>
        (s.flags.gaming, s.flags.classified, s.burst)) = some (false, false, 10000000) := by
    decide +kernel
  have hdomains : (onTwoDomains.afterAll (hog 0)).queueOf (player 3 "make") = .domain 0 ∧
      (onTwoDomains.afterAll (hog 7)).queueOf (player 3 "make") = .domain 0 := by
    decide +kernel
  have hcounts : (onTwoDomains.afterAll (hog 0)).counters.get .interactiveEnqueued = 0 ∧
      (onTwoDomains.afterAll (hog 7)).counters.get .interactiveEnqueued = 0 := by
    decide +kernel
  obtain ⟨s, hs, hflags⟩ := Option.map_eq_some_iff.1 hknown
  obtain ⟨s', hs', hflags'⟩ := Option.map_eq_some_iff.1 hunknown
  simp only [Prod.mk.injEq] at hflags hflags'
  obtain ⟨hgaming, hclassified, hburst⟩ := hflags
  obtain ⟨hgaming', hclassified', hburst'⟩ := hflags'
  obtain ⟨-, hinteractive⟩ := h _ _ hpermits.1 rfl (player 3 "make") s hs hgaming
  obtain ⟨hbatch, -⟩ := h _ _ hpermits.2 rfl (player 3 "make") s' hs' hgaming'
  obtain ⟨hqueues, hcounted⟩ := hinteractive hclassified (by decide)
  obtain ⟨hqueues', hcounted'⟩ := hbatch (.inl hclassified')
  rw [hdomains.1, hburst] at hqueues
  rw [hdomains.2, hburst'] at hqueues'
  rw [hcounts.1] at hcounted
  rw [hcounts.2] at hcounted'
  exact ⟨⟨_, rfl, hpermits.1, hqueues, hcounted⟩, _, rfl, hpermits.2, hqueues', hcounted'⟩

end Engine

end CoreSteer
