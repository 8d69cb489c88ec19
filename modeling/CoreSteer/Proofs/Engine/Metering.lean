import CoreSteer.Proofs.Engine.Timesheet
/-!
# A core is not charged more time than has passed

Whoever drives the engine may get the life cycle of tasks wrong: runs overlap on a core, a task is said
to end twice, or on a core that never ran it.  Then not all time is accounted for, but none is
accounted for twice.  A core is *told* that runs begin and end, and `RunMark.busyTime` says what
follows from that alone: each run counts at most once, up to the first end of its task, and only if
no other run began on the core before.

While a core runs a task, all that it was charged lies before the begin of the run; while it rests, all
of it lies before it went idle.  That is the invariant `Meter.Charged`, with one lemma for a run that
begins and one for a task that ends.

There is one exception (`zero_is_charged_again`).  Task zero stands for no task in the run state of a
core, so that a core that rests takes the end of task zero for the end of its last run, once more.
-/
namespace CoreSteer

/-! ## What a core is told -/

/-- What a core is told of a run. -/
inductive RunMark where
  /-- A run of a task begins. -/
  | began (pid time : Nat)
  /-- A task ends its run, or is said to. -/
  | ended (pid time : Nat)
deriving DecidableEq

namespace RunMark

/-- When the core was told. -/
def time : RunMark → Nat
  | began _ time => time
  | ended _ time => time

/-- Whether it decides what becomes of a run of a task: another run begins, or the task ends. -/
def settles (pid : Nat) : RunMark → Bool
  | began _ _ => true
  | ended p _ => p == pid

/-- How long a run counts as busy, given what the core is told later. -/
def busyFor (pid since : Nat) (later : List RunMark) : Nat :=
  match later.find? (settles pid) with
  | some (ended _ time) => time - since
  | _ => 0

/-- How long all runs count as busy. -/
def busyTime : List RunMark → Nat
  | [] => 0
  | began pid time :: later => busyFor pid time later + busyTime later
  | ended _ _ :: later => busyTime later

/-- Whether task zero is said to end. -/
def endsZero : RunMark → Bool
  | ended 0 _ => true
  | _ => false

end RunMark

/-- What a core is up to, by what it was told. -/
inductive CoreUse where
  /-- No run has begun yet. -/
  | unused
  /-- A run goes on. -/
  | runs (pid since : Nat)
  /-- The last run is over. -/
  | rests
deriving DecidableEq

namespace CoreUse

/-- After the core was told something. -/
def after : CoreUse → RunMark → CoreUse
  | _, .began pid time => .runs pid time
  | .runs pid since, .ended p _ => if p = pid then .rests else .runs pid since
  | u, .ended _ _ => u

/-- How much busy time it makes when the core is told something. -/
def gain : CoreUse → RunMark → Nat
  | .runs pid since, .ended p time => if p = pid then time - since else 0
  | _, _ => 0

/-- After the core was told several things in order. -/
def afterAll (u : CoreUse) (ms : List RunMark) : CoreUse := ms.foldl after u

/-- How long the run that goes on and all later ones count as busy. -/
def busyTime (u : CoreUse) (ms : List RunMark) : Nat :=
  match u with
  | .runs pid since => RunMark.busyFor pid since ms + RunMark.busyTime ms
  | _ => RunMark.busyTime ms

/-- Task zero is not said to end on the core while the core rests. -/
def Sane (u : CoreUse) : List RunMark → Prop
  | [] => True
  | m :: ms => (u = rests → m.endsZero = false) ∧ (u.after m).Sane ms

instance decidableSane (u : CoreUse) : (ms : List RunMark) → Decidable (u.Sane ms)
  | [] => .isTrue trivial
  | m :: ms =>
    have := decidableSane (u.after m) ms
    inferInstanceAs (Decidable ((u = rests → m.endsZero = false) ∧ (u.after m).Sane ms))

/-- The busy time comes about bit by bit. -/
lemma busyTime_cons (u : CoreUse) (m : RunMark) (ms : List RunMark) :
    u.busyTime (m :: ms) = u.gain m + (u.after m).busyTime ms := by
  cases m with
  | began pid time =>
    -- whatever run went on does not count any more
    have hlost : ∀ p since, RunMark.busyFor p since (.began pid time :: ms) = 0 := by
      intro p since
      simp [RunMark.busyFor, RunMark.settles]
    cases u <;> simp [busyTime, gain, after, RunMark.busyTime, hlost]
  | ended p time =>
    cases u with
    | unused | rests => simp [busyTime, gain, after, RunMark.busyTime]
    | runs pid since =>
      by_cases hp : p = pid
      · simp [busyTime, gain, after, RunMark.busyTime, RunMark.busyFor, RunMark.settles, hp]
      · have hne : (p == pid) = false := by simpa using hp
        simp [busyTime, gain, after, RunMark.busyTime, RunMark.busyFor, RunMark.settles, hp, hne]

end CoreUse

/-! ## One core -/

namespace Meter

/-- The meter after the core was told something. -/
def told (m : Meter) (urgency : Urgency) : RunMark → Meter
  | .began pid time => m.beginRun urgency pid time
  | .ended pid time => m.endRun pid time

/-- At the time `now`, the core was charged for `busy` and `idle` since `first`. -/
inductive Charged (first now : Nat) : CoreUse → (busy idle : Nat) → Meter → Prop where
  /-- Nothing was charged. -/
  | unused {m : Meter} (hpid : m.run.pid = 0) (hstart : m.run.startedAt = 0) (hbusy : m.busy = 0)
      (hidle : m.idle = 0) (hlast : 0 < m.lastIdleAt → first ≤ m.lastIdleAt)
      (hnow : m.lastIdleAt ≤ now) : Charged first now .unused 0 0 m
  /-- All that was charged lies before the begin of the run.  Since then some task may have been said
  to end that was not running. -/
  | runs {m : Meter} {pid since busy idle : Nat} (hpid : m.run.pid = pid)
      (hstart : m.run.startedAt = since) (hbusy : m.busy = wrap64 busy)
      (hidle : m.idle = wrap64 idle) (hsum : first + busy + idle ≤ since) (hpos : 0 < since)
      (hbegun : since ≤ now) (hlast : 0 < m.lastIdleAt → since ≤ m.lastIdleAt)
      (hnow : m.lastIdleAt ≤ now) : Charged first now (.runs pid since) busy idle m
  /-- All that was charged lies before the core went idle. -/
  | rests {m : Meter} {busy idle : Nat} (hpid : m.run.pid = 0) (hbusy : m.busy = wrap64 busy)
      (hidle : m.idle = wrap64 idle) (hsum : first + busy + idle ≤ m.lastIdleAt)
      (hnow : m.lastIdleAt ≤ now) : Charged first now .rests busy idle m

lemma elapsed_le (since now : Nat) : elapsed since now ≤ now - since := by
  unfold elapsed
  split
  · exact Nat.le_refl _
  · exact Nat.zero_le _

/-- The end of a task that does not run leaves the run on. -/
lemma endRun_of_ne {m : Meter} {pid busy : Nat} (h : m.run.pid ≠ pid) (hbusy : m.busy = wrap64 busy)
    (now : Nat) : m.endRun pid now = ⟨m.run, wrap64 busy, m.idle, now⟩ := by
  rw [endRun, RunState.clearIf, if_neg h, hbusy]
  show Meter.mk m.run (wrap64 (wrap64 busy + elapsed 0 now)) m.idle now = _
  rw [wrap64_wrap64_add]
  rfl

/-- The end of the task that runs ends the run. -/
lemma endRun_of_eq {m : Meter} {pid : Nat} (h : m.run.pid = pid) (now : Nat) :
    m.endRun pid now = ⟨{ m.run with urgency := .batch, pid := 0 },
      wrap64 (m.busy + elapsed m.run.startedAt now), m.idle, now⟩ := by
  rw [endRun, RunState.clearIf, if_pos h]
  rfl

namespace Charged

variable {first now : Nat} {u : CoreUse} {busy idle : Nat} {m : Meter}

lemma mono (h : m.Charged first now u busy idle) {later : Nat} (hle : now ≤ later) :
    m.Charged first later u busy idle := by
  cases h with
  | unused hpid hstart hbusy hidle hlast hnow =>
    exact .unused hpid hstart hbusy hidle hlast (hnow.trans hle)
  | runs hpid hstart hbusy hidle hsum hpos hbegun hlast hnow =>
    exact .runs hpid hstart hbusy hidle hsum hpos (hbegun.trans hle) hlast (hnow.trans hle)
  | rests hpid hbusy hidle hsum hnow => exact .rests hpid hbusy hidle hsum (hnow.trans hle)

/-- Whatever was charged, there was time for it. -/
lemma le_now (h : m.Charged first now u busy idle) :
    busy + idle ≤ now - first ∧ m.busy = wrap64 busy ∧ m.idle = wrap64 idle := by
  cases h with
  | unused hpid hstart hbusy hidle hlast hnow => exact ⟨Nat.zero_le _, hbusy, hidle⟩
  | runs hpid hstart hbusy hidle hsum hpos hbegun hlast hnow =>
    exact ⟨by omega, hbusy, hidle⟩
  | rests hpid hbusy hidle hsum hnow => exact ⟨by omega, hbusy, hidle⟩

/-- A run begins: the core is charged for being idle since some task was last said to end, and that is
after all that it was charged for before. -/
lemma beginRun (h : m.Charged first now u busy idle) (hfirst : first ≤ now) (hpos : 0 < now)
    (urgency : Urgency) (pid : Nat) :
    (m.beginRun urgency pid now).Charged first now (.runs pid now) busy
      (idle + elapsed m.lastIdleAt now) := by
  have hle := elapsed_le m.lastIdleAt now
  have hzero : ¬ 0 < m.lastIdleAt → elapsed m.lastIdleAt now = 0 := fun hlast => if_neg hlast
  obtain ⟨-, hbusy, hidle⟩ := h.le_now
  have hidle' : (m.beginRun urgency pid now).idle = wrap64 (idle + elapsed m.lastIdleAt now) := by
    rw [Meter.beginRun, hidle, wrap64_wrap64_add]
  refine .runs rfl rfl hbusy hidle' ?_ hpos (Nat.le_refl now) (fun hlast => ?_) (Nat.zero_le now)
  · by_cases hlast : 0 < m.lastIdleAt
    · cases h with
      | unused _ _ _ _ hsince _ =>
        have := hsince hlast
        omega
      | runs _ _ _ _ hsum _ _ hsince _ =>
        have := hsince hlast
        omega
      | rests _ _ _ hsum _ => omega
    · rw [hzero hlast]
      cases h with
      | unused => omega
      | runs _ _ _ _ hsum _ hbegun _ _ => omega
      | rests _ _ _ hsum hnow => omega
  · exact absurd hlast (Nat.lt_irrefl 0)

/-- A task is said to end: if it was running the core is charged for its run, and it is not charged for
anything else. -/
lemma endRun (h : m.Charged first now u busy idle) (hfirst : first ≤ now) {pid : Nat}
    (hsane : u = .rests → pid ≠ 0) :
    (m.endRun pid now).Charged first now (u.after (.ended pid now))
      (busy + u.gain (.ended pid now)) idle := by
  obtain ⟨-, hbusy, hidle⟩ := h.le_now
  cases h with
  | unused hpid hstart hbusy hidle _ _ =>
    -- no run has begun, so that there is none to be charged for
    by_cases hp : m.run.pid = pid
    · have hfree : elapsed m.run.startedAt now = 0 := by rw [hstart]; rfl
      rw [endRun_of_eq hp, hfree, hbusy]
      exact .unused rfl hstart rfl hidle (fun _ => hfirst) (Nat.le_refl now)
    · have hnone : m.busy = wrap64 0 := hbusy
      rw [endRun_of_ne hp hnone]
      exact .unused hpid hstart rfl hidle (fun _ => hfirst) (Nat.le_refl now)
  | @runs _ q since _ _ hpid hstart _ _ hsum hpos hbegun _ _ =>
    by_cases hp : pid = q
    · have helapsed : elapsed m.run.startedAt now = now - since := by
        rw [hstart]
        exact if_pos hpos
      rw [endRun_of_eq (hpid.trans hp.symm), helapsed, hbusy, wrap64_wrap64_add]
      simp only [CoreUse.after, CoreUse.gain, if_pos hp]
      refine .rests rfl rfl hidle ?_ (Nat.le_refl now)
      show first + (busy + (now - since)) + idle ≤ now
      omega
    · rw [endRun_of_ne (fun he => hp (he.symm.trans hpid)) hbusy]
      simp only [CoreUse.after, CoreUse.gain, if_neg hp, Nat.add_zero]
      exact .runs hpid hstart rfl hidle hsum hpos hbegun (fun _ => hbegun) (Nat.le_refl now)
  | rests hpid _ _ hsum hnow =>
    rw [endRun_of_ne (fun he => hsane rfl (he.symm.trans hpid)) hbusy]
    exact .rests hpid rfl hidle (hsum.trans hnow) (Nat.le_refl now)

/-- Whatever the core is told, it is charged for that. -/
lemma told (h : m.Charged first now u busy idle) (hfirst : first ≤ now) {k : RunMark}
    (htime : k.time = now) (hpos : ∀ pid time, k = .began pid time → 0 < time)
    (hsane : u = .rests → k.endsZero = false) (urgency : Urgency) :
    ∃ idle', (m.told urgency k).Charged first now (u.after k) (busy + u.gain k) idle' := by
  subst htime
  cases k with
  | began pid time =>
    have hbegun := h.beginRun hfirst (hpos pid time rfl) urgency pid
    refine ⟨idle + elapsed m.lastIdleAt time, ?_⟩
    cases u <;> exact hbegun
  | ended pid time =>
    refine ⟨idle, h.endRun hfirst fun hu hzero => ?_⟩
    have hends := hsane hu
    rw [hzero] at hends
    cases hends

end Charged

end Meter

/-! ## Calls -/

namespace Engine

/-- What a call tells a core. -/
def mark? (e : Engine) (cpu : Nat) : EngineCall → Option RunMark
  | .running task => if task.cpu = cpu then some (.began task.pid e.host.now) else none
  | .stopping task _ => if task.cpu = cpu then some (.ended task.pid e.host.now) else none
  | _ => none

/-- What calls in order tell a core. -/
def marks (e : Engine) (cpu : Nat) : List EngineCall → List RunMark
  | [] => []
  | c :: cs => (e.mark? cpu c).toList ++ (e.after c).marks cpu cs

end Engine

/-- Whether a call says that a run begins or ends. -/
def EngineCall.tellsOfRun : EngineCall → Bool
  | .running _ | .stopping _ _ => true
  | _ => false

namespace Engine

/-- The clock when a run is first said to begin or to end. -/
def firstTold? (e : Engine) : List EngineCall → Option Nat
  | [] => none
  | c :: cs => if c.tellsOfRun then some e.host.now else (e.after c).firstTold? cs

variable {e : Engine} {c : EngineCall} {cs : List EngineCall} {cpu : Nat}

/-- Nothing but the platform moves the clock. -/
lemma now_after (hc : ∀ host, c ≠ .platform host) : (e.after c).host.now = e.host.now := by
  cases c with
  | selectCpu task prev =>
    obtain ⟨found, host, tasks, -, hsearch, -, hr⟩ := e.result_selectCpu task prev
    show (e.selectCpu task prev).2.host.now = _
    rw [hr.outcome.host_eq]
    cases found with
    | none => exact hsearch.now_eq
    | some cpu => exact hsearch.now_eq
  | enqueue task =>
    obtain ⟨_, _, ho⟩ := e.outcome_enqueue task
    show (e.enqueue task).host.now = _
    rw [ho.host_eq]
  | dispatch cpu =>
    rcases hp : e.queues.popFirst? (drainOrder e.topology cpu) with _ | ⟨w, queues⟩
    · exact congrArg Host.now (e.outcome_dispatch_none hp).2.host_eq
    · exact congrArg Host.now (e.outcome_dispatch_some hp).2.host_eq
  | running task => exact congrArg Host.now (e.outcome_running task).host_eq
  | stopping task runnable => exact congrArg Host.now (e.outcome_stopping task runnable).host_eq
  | tick cpu => exact congrArg Host.now (e.outcome_tick cpu).host_eq
  | noteProfileMatch task => exact congrArg Host.now (e.outcome_noteProfileMatch task).host_eq
  | taskExit pid => exact congrArg Host.now (e.outcome_taskExit pid).host_eq
  | exit | readEvents | settings | knowledge => rfl
  | platform host => exact absurd rfl (hc host)

lemma KeepsTime.now_le (h : e.KeepsTime c) : e.host.now ≤ (e.after c).host.now := by
  cases c with
  | platform host => exact h
  | _ => exact Nat.le_of_eq (now_after (by simp)).symm

/-- Only what is said of runs is on meters. -/
lemma meters_after (hc : c.tellsOfRun = false) : (e.after c).meters = e.meters := by
  cases c with
  | running | stopping => cases hc
  | selectCpu task prev => exact congrArg (·.map (·.meter)) (e.cores_selectCpu task prev)
  | enqueue task => exact e.meters_enqueue task
  | dispatch cpu => exact e.meters_dispatch cpu
  | tick cpu => exact e.meters_tick cpu
  | taskExit | noteProfileMatch | exit | readEvents | settings | knowledge | platform => rfl

/-- What is ahead is not told before now. -/
lemma now_le_firstTold (h : e.KeepsTimeAll cs) {first : Nat} (hf : e.firstTold? cs = some first) :
    e.host.now ≤ first := by
  induction cs generalizing e with
  | nil => cases hf
  | cons c cs ih =>
    unfold firstTold? at hf
    split at hf
    · exact Nat.le_of_eq (Option.some.inj hf)
    · exact (KeepsTime.now_le h.1).trans (ih h.2 hf)

/-- The meter of a core shows what the core is told. -/
lemma meter_of_mark?_eq_some {k : RunMark} (h : e.mark? cpu c = some k) :
    ∃ urgency, (e.after c).meters[cpu]? = e.meters[cpu]?.map (·.told urgency k) := by
  cases c with
  | running task =>
    obtain ⟨hcpu, hk⟩ := Option.ite_none_right_eq_some.1 h
    obtain rfl := Option.some.inj hk
    refine ⟨TaskState.urgency (e.task? task.pid), ?_⟩
    show (e.running task).meters[cpu]? = _
    rw [e.meters_running, Array.getElem?_modify, if_pos hcpu]
    rfl
  | stopping task runnable =>
    obtain ⟨hcpu, hk⟩ := Option.ite_none_right_eq_some.1 h
    obtain rfl := Option.some.inj hk
    refine ⟨.batch, ?_⟩
    show (e.stopping task runnable).meters[cpu]? = _
    rw [e.meters_stopping, Array.getElem?_modify, if_pos hcpu]
    rfl
  | _ => cases h

/-- What is told of other cores does not matter. -/
lemma meter_of_mark?_eq_none (h : e.mark? cpu c = none) :
    (e.after c).meters[cpu]? = e.meters[cpu]? := by
  cases c with
  | running task =>
    have hcpu : task.cpu ≠ cpu := fun he => by simp [mark?, he] at h
    show (e.running task).meters[cpu]? = _
    rw [e.meters_running, Array.getElem?_modify, if_neg hcpu]
  | stopping task runnable =>
    have hcpu : task.cpu ≠ cpu := fun he => by simp [mark?, he] at h
    show (e.stopping task runnable).meters[cpu]? = _
    rw [e.meters_stopping, Array.getElem?_modify, if_neg hcpu]
  | _ => rw [meters_after rfl]

/-- A core is told of a run when it begins or ends, and runs begin when the clock is positive. -/
lemma time_of_mark? {k : RunMark} (h : e.mark? cpu c = some k) (htime : e.KeepsTime c) :
    k.time = e.host.now ∧ (e.after c).host.now = e.host.now ∧ c.tellsOfRun = true ∧
      ∀ pid time, k = .began pid time → 0 < time := by
  cases c with
  | running task =>
    obtain ⟨-, hk⟩ := Option.ite_none_right_eq_some.1 h
    obtain rfl := Option.some.inj hk
    refine ⟨rfl, now_after (by simp), rfl, fun pid time hk => ?_⟩
    obtain ⟨-, rfl⟩ := RunMark.began.inj hk
    exact htime
  | stopping task runnable =>
    obtain ⟨-, hk⟩ := Option.ite_none_right_eq_some.1 h
    obtain rfl := Option.some.inj hk
    exact ⟨rfl, now_after (by simp), rfl, nofun⟩
  | _ => cases h

/-- No core comes into being. -/
lemma meter_afterAll_eq_none (h : e.meters[cpu]? = none) (cs : List EngineCall) :
    (e.afterAll cs).meters[cpu]? = none := by
  induction cs generalizing e with
  | nil => exact h
  | cons c cs ih =>
    refine ih ?_
    rcases hmark : e.mark? cpu c with _ | k
    · rw [meter_of_mark?_eq_none hmark, h]
    · obtain ⟨urgency, hm⟩ := meter_of_mark?_eq_some hmark
      rw [hm, h]
      rfl

/-- All that calls in order tell of runs is charged. -/
lemma charged_afterAll {first busy idle : Nat} {u : CoreUse} {m : Meter}
    (hm : e.meters[cpu]? = some m) (h : m.Charged first e.host.now u busy idle)
    (htime : e.KeepsTimeAll cs) (hfirst : ∀ f, e.firstTold? cs = some f → first ≤ f)
    (hsane : u.Sane (e.marks cpu cs)) :
    ∃ m' u' idle', (e.afterAll cs).meters[cpu]? = some m' ∧
      m'.Charged first (e.afterAll cs).host.now u' (busy + u.busyTime (e.marks cpu cs)) idle' := by
  induction cs generalizing e u busy idle m with
  | nil =>
    have hnone : u.busyTime [] = 0 := by cases u <;> rfl
    refine ⟨m, u, idle, hm, ?_⟩
    show m.Charged first e.host.now u (busy + u.busyTime []) idle
    rw [hnone]
    exact h
  | cons c cs ih =>
    have hnow : c.tellsOfRun = true → first ≤ e.host.now := fun hc =>
      hfirst _ (by rw [firstTold?, if_pos hc])
    have hahead : ∀ f, (e.after c).firstTold? cs = some f → first ≤ f := by
      intro f hf
      by_cases hc : c.tellsOfRun = true
      · exact (hnow hc).trans (htime.1.now_le.trans (now_le_firstTold htime.2 hf))
      · exact hfirst f (by rw [firstTold?, if_neg hc, hf])
    unfold marks at hsane ⊢
    rcases hmark : e.mark? cpu c with _ | k
    · rw [hmark] at hsane
      have hm' := (meter_of_mark?_eq_none hmark).trans hm
      exact ih hm' (h.mono htime.1.now_le) htime.2 hahead hsane
    · rw [hmark] at hsane
      obtain ⟨hk, hstill, htells, hpos⟩ := time_of_mark? hmark htime.1
      obtain ⟨urgency, hm'⟩ := meter_of_mark?_eq_some hmark
      obtain ⟨idle', h'⟩ := h.told (hnow htells) hk hpos hsane.1 urgency
      rw [hm] at hm'
      rw [← hstill] at h'
      have hrest := ih hm' h' htime.2 hahead hsane.2
      rw [Nat.add_assoc, ← u.busyTime_cons] at hrest
      exact hrest

/-- A core is never charged more time than has passed.  From the start of an engine on, let runs be said
to begin and to end in any order, whether that fits together or not, while the clock never goes back
and is positive when a run begins.  What a core was busy is the sum of its runs, each from its begin
up to the first end of its task, if no other run began there before, and what it was busy and idle is
no more than the time since a run was first said to begin or to end anywhere.  Task zero must not be
said to end on a core that rests after some run. -/
theorem charged_at_most_once (t : Topology) (config : EngineConfig) (tunables : TunablesCell)
    (hints : Hints) (host : Host) :
    ∃ e₀, start t config tunables hints host = .ok e₀ ∧
      ∀ calls, e₀.KeepsTimeAll calls → ∀ e, e₀.afterAll calls = e →
        ∀ first, (e₀.firstTold? calls).getD e.host.now = first →
          ∀ cpu c, e.core? cpu = some c →
            ∀ marks, e₀.marks cpu calls = marks → CoreUse.unused.Sane marks →
              c.stats.busy = wrap64 (RunMark.busyTime marks) ∧
                RunMark.busyTime marks ≤ e.host.now - first ∧
                c.stats.busy + c.stats.idle ≤ e.host.now - first := by
  obtain ⟨queues, -, hstart⟩ := exists_start t config tunables hints host
  refine ⟨_, hstart, ?_⟩
  intro calls htime e he first hfirst cpu c hc marks hmarks hsane
  subst he hmarks
  generalize he₀ : (⟨.make t config tunables hints host, .ofCapacity config.taskCapacity, queues,
    none⟩ : Engine) = e₀ at htime hfirst hc hsane ⊢
  have hmeter : (e₀.afterAll calls).meters[cpu]? = some c.meter := by
    rw [Machine.getElem?_meters, hc, Option.map_some]
  -- at first no core was charged for anything
  have hfresh : ∀ m, e₀.meters[cpu]? = some m → m.Charged first e₀.host.now .unused 0 0 := by
    intro m hm
    rw [← he₀] at hm
    change ((Array.replicate t.nrCpus _).map _)[cpu]? = _ at hm
    rw [Array.map_replicate, Array.getElem?_replicate] at hm
    split at hm
    · rw [← Option.some.inj hm]
      exact .unused rfl rfl rfl rfl (fun h => absurd h (Nat.lt_irrefl 0)) (Nat.zero_le _)
    · cases hm
  rcases hm₀ : e₀.meters[cpu]? with _ | m₀
  · rw [meter_afterAll_eq_none hm₀ calls] at hmeter
    cases hmeter
  · obtain ⟨m, u, idle, hm, h⟩ := charged_afterAll hm₀ (hfresh m₀ hm₀) htime
      (fun f hf => Nat.le_of_eq (by rw [← hfirst, hf]; rfl)) hsane
    obtain rfl : c.meter = m := Option.some.inj (hmeter.symm.trans hm)
    obtain ⟨hle, hbusy, hidle⟩ := h.le_now
    rw [Nat.zero_add] at hle hbusy
    change RunMark.busyTime (e₀.marks cpu calls) + idle ≤ _ at hle
    change c.stats.busy = wrap64 (RunMark.busyTime (e₀.marks cpu calls)) at hbusy
    change c.stats.idle = wrap64 idle at hidle
    -- words hold no more than what is put into them
    have hbusyWord : c.stats.busy ≤ RunMark.busyTime (e₀.marks cpu calls) := by
      rw [hbusy]
      exact Nat.mod_le _ _
    have hidleWord : c.stats.idle ≤ idle := by
      rw [hidle]
      exact Nat.mod_le _ _
    exact ⟨hbusy, by omega, by omega⟩

/-- The first core is told what does not fit together: a run begins while another one goes on, the
latter is said to end too late, the former twice, and then task zero runs. -/
def oddRuns : List EngineCall :=
  let clock (now : Nat) : EngineCall := .platform { Host.ofTopology .twoDomains with now := now }
  [clock 100, .running (player 3 "make"), clock 130, .running (player 7 "sh"), clock 140,
    .stopping (player 3 "make") true, clock 150, .stopping (player 7 "sh") true, clock 160,
    .stopping (player 7 "sh") false, clock 170, .running (player 0 "swapper"), clock 180,
    .stopping (player 0 "swapper") true, clock 200]

theorem charged_at_most_once_oddRuns :
    onTwoDomains.KeepsTimeAll oddRuns ∧ CoreUse.unused.Sane (onTwoDomains.marks 0 oddRuns) ∧
      onTwoDomains.firstTold? oddRuns = some 100 ∧
      ∃ c, (onTwoDomains.afterAll oddRuns).core? 0 = some c ∧ c.stats.busy = 30 ∧
        c.stats.busy + c.stats.idle ≤ 200 - 100 := by
  obtain ⟨e₀, hstart, h⟩ := charged_at_most_once .twoDomains { taskCapacity := 0 } none {}
    (.ofTopology .twoDomains)
  obtain rfl : onTwoDomains = e₀ := Except.ok.inj (start_twoDomains.symm.trans hstart)
  have htime : onTwoDomains.KeepsTimeAll oddRuns := by decide +kernel
  have hsane : CoreUse.unused.Sane (onTwoDomains.marks 0 oddRuns) := by decide +kernel
  have hfirst : onTwoDomains.firstTold? oddRuns = some 100 := by decide +kernel
  have hcore : ((onTwoDomains.afterAll oddRuns).core? 0).isSome = true := by decide +kernel
  obtain ⟨c, hc⟩ := Option.isSome_iff_exists.1 hcore
  obtain ⟨hbusy, -, hsum⟩ := h oddRuns htime _ rfl 100 (by rw [hfirst]; rfl) 0 c hc _ rfl hsane
  exact ⟨htime, hsane, hfirst, c, hc, hbusy.trans (by decide +kernel), hsum⟩

/-- A task runs and ends, and later task zero is said to end. -/
def zeroEnds : List EngineCall :=
  let clock (now : Nat) : EngineCall := .platform { Host.ofTopology .twoDomains with now := now }
  [clock 100, .running (player 3 "make"), clock 200, .stopping (player 3 "make") false, clock 300,
    .stopping (player 0 "swapper") false]

/-- The core is charged for the run up to the end of task zero as well: for more than has passed. -/
theorem zero_is_charged_again :
    onTwoDomains.KeepsTimeAll zeroEnds ∧ onTwoDomains.firstTold? zeroEnds = some 100 ∧
      (onTwoDomains.afterAll zeroEnds).host.now = 300 ∧
      RunMark.busyTime (onTwoDomains.marks 0 zeroEnds) = 100 ∧
      ((onTwoDomains.afterAll zeroEnds).core? 0).map (fun c => (c.stats.busy, c.stats.idle)) =
        some (300, 0) ∧
      ¬ 300 + 0 ≤ 300 - 100 := by
  decide +kernel

end Engine

end CoreSteer
