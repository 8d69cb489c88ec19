import CoreSteer.Proofs.Engine.Observers
/-!
# Running time is accounted for

Three cells hold clock readings: when the run of a core began, when a core last went idle, and when
the run of a task began.  Zero stands for no reading.  Each is written by one call and read by
another, so that what was summed from them need not be what was run.

It is, as long as the platform keeps to the life cycle of tasks and its clock is positive and never
goes back.  A `Timesheet` is the history of runs beside the engine.  The `Meter` of a core is all of
it that sums time, and `Timesheet.Reads` says what it shows while the core runs a task, while it
rests, and before its first run.  What is remembered of a task is right by `Timesheet.Matches`, since
nobody writes it between the begin and the end of a run.
-/
namespace CoreSteer

/-! ## Meters -/

/-- What sums the time of a core. -/
structure Meter where
  /-- What it runs. -/
  run : RunState
  /-- Time with a task. -/
  busy : Nat
  /-- Time without a task. -/
  idle : Nat
  /-- When it last went idle; zero while it runs something. -/
  lastIdleAt : Nat
deriving DecidableEq

/-- The meter of a core. -/
def CoreState.meter (c : CoreState) : Meter :=
  ⟨c.run, c.stats.busy, c.stats.idle, c.perf.lastIdleAt⟩

namespace Meter

/-- A run begins. -/
def beginRun (m : Meter) (urgency : Urgency) (pid now : Nat) : Meter :=
  ⟨.begin urgency pid now, m.busy, wrap64 (m.idle + elapsed m.lastIdleAt now), 0⟩

/-- A run ends. -/
def endRun (m : Meter) (pid now : Nat) : Meter :=
  ⟨(m.run.clearIf pid).2, wrap64 (m.busy + elapsed ((m.run.clearIf pid).1.getD 0) now), m.idle, now⟩

end Meter

namespace Machine

/-- The meters of all cores. -/
def meters (m : Machine) : Array Meter := m.cores.map (·.meter)

lemma getElem?_meters (m : Machine) (cpu : Nat) :
    m.meters[cpu]? = (m.core? cpu).map (·.meter) := Array.getElem?_map

lemma meters_modifyCore (m : Machine) (cpu : Nat) {f : CoreState → CoreState}
    {g : Meter → Meter} (h : ∀ c, (f c).meter = g c.meter) :
    (m.modifyCore cpu f).meters = m.meters.modify cpu g :=
  m.map_modifyCore cpu h

/-- Much that is written of a core is not on its meter. -/
lemma meters_modifyCore_eq (m : Machine) (cpu : Nat) {f : CoreState → CoreState}
    (h : ∀ c, (f c).meter = c.meter) : (m.modifyCore cpu f).meters = m.meters :=
  m.map_modifyCore_eq cpu h

lemma meters_modifyLoadAt (m : Machine) (cpu : Nat) (f : DomainLoad → DomainLoad) :
    (m.modifyLoadAt cpu f).meters = m.meters := by
  rw [modifyLoadAt_eq]
  rfl

lemma meters_countEnqueue (m : Machine) (task : Task) :
    (m.countEnqueue task).meters = m.meters :=
  (m.bump .enqueued).meters_modifyCore_eq task.cpu fun _ => rfl

lemma meters_countCall (m : Machine) (cpu : Nat) : (m.countCall cpu).meters = m.meters :=
  m.meters_modifyCore_eq cpu fun _ => rfl

lemma meters_attend (m : Machine) (task : Task) (flags : TaskFlags) :
    (m.attend task flags).meters = m.meters := by
  have hcount : (m.countGamingEnqueue task).meters = m.meters :=
    (m.bump .gamingEnqueued).meters_modifyCore_eq task.cpu fun _ => rfl
  have hkick : ∀ (m : Machine) domain, (m.kickVictim task domain).meters = m.meters := by
    intro m domain
    unfold kickVictim
    split <;> rfl
  unfold attend
  dsimp only
  split
  · split
    · exact (hkick _ _).trans hcount
    · exact hcount
  · split <;> rfl

lemma meters_accountWait (m : Machine) (task : Task) (gaming : Bool) (latency : Nat) :
    (m.accountWait task gaming latency).meters = m.meters := by
  have hwait := meters_modifyCore_eq { m with counters := m.counters.wait latency } task.cpu
    (f := fun c => { c with stats := c.stats.wait latency }) fun _ => rfl
  unfold accountWait
  dsimp only
  split
  · split
    · exact hwait
    · exact hwait
  · exact hwait

lemma meters_checkImbalance (m : Machine) : m.checkImbalance.meters = m.meters := by
  unfold checkImbalance
  split
  · rfl
  · split
    · rfl
    · split <;> rfl

lemma meters_beginRun (m : Machine) (task : Task) (urgency : Urgency) :
    (m.beginRun task urgency).meters =
      m.meters.modify task.cpu (·.beginRun urgency task.pid m.host.now) := by
  unfold beginRun
  rw [meters_modifyCore _ _ (g := (·.beginRun urgency task.pid m.host.now)) fun _ => rfl,
    meters_modifyLoadAt]

lemma meters_endRun (m : Machine) (task : Task) (gaming : Bool) :
    (m.endRun task gaming).meters = m.meters.modify task.cpu (·.endRun task.pid m.host.now) := by
  unfold endRun
  rw [meters_modifyCore _ _ (g := (·.endRun task.pid m.host.now)) fun _ => rfl,
    meters_modifyLoadAt]

end Machine

namespace Engine

/-- Choosing a core for a task writes nothing about cores. -/
lemma cores_selectCpu (e : Engine) (task : Task) (prev : Nat) :
    (e.selectCpu task prev).2.cores = e.cores := by
  have hsettle : ∀ (e : Engine) found, (e.settle task prev found).2.cores = e.cores := by
    intro e found
    obtain ⟨_, _, -, hsettled⟩ := e.exists_settle task prev found
    rw [hsettled]
    rfl
  rcases hw : e.woken? task prev with _ | s
  · rw [selectCpu_of_not_woken? hw]
    rfl
  · obtain ⟨_, _, _, -, -, hm⟩ := searched_decide e.toMachine e.strategy task s prev
    have hseek : (e.seekCore task s prev).2.cores = e.cores := by
      rw [seekCore, hm]
    rw [selectCpu_of_woken? hw, hsettle]
    exact hseek

lemma meters_enqueue (e : Engine) (task : Task) : (e.enqueue task).meters = e.meters := by
  rw [toMachine_enqueue]
  split
  · exact e.toMachine.meters_countEnqueue task
  · rw [Machine.meters_attend, Machine.meters_countEnqueue]

lemma meters_dispatch (e : Engine) (cpu : Nat) : (e.dispatch cpu).2.meters = e.meters := by
  rw [toMachine_dispatch]
  split
  · exact e.toMachine.meters_countCall cpu
  · exact e.toMachine.meters_countCall cpu

lemma meters_tick (e : Engine) (cpu : Nat) : (e.tick cpu).meters = e.meters := by
  have hsample := e.toMachine.meters_modifyCore_eq cpu
    (f := fun c => { c with perf := c.perf.sample (e.host.perfOf cpu) e.host.now }) fun _ => rfl
  rw [toMachine_tick]
  split
  · rfl
  · dsimp only
    split
    · rw [Machine.meters_checkImbalance, hsample]
    · exact hsample

/-- A run that begins begins on the meter of its core. -/
lemma meters_running (e : Engine) (task : Task) :
    (e.running task).meters = e.meters.modify task.cpu
      (·.beginRun (TaskState.urgency (e.task? task.pid)) task.pid e.host.now) := by
  rw [toMachine_running, Machine.meters_beginRun]
  split
  · rfl
  · next s hs =>
    split
    · rw [Machine.meters_accountWait, (e.toMachine.measured_accountWait task _ _).host_eq]
    · rfl

/-- A run that ends ends on the meter of its core. -/
lemma meters_stopping (e : Engine) (task : Task) (runnable : Bool) :
    (e.stopping task runnable).meters =
      e.meters.modify task.cpu (·.endRun task.pid e.host.now) := by
  rw [toMachine_stopping, Machine.meters_endRun]
  split <;> rfl

end Engine

/-- A run that ends adds its length to the burst, unless the task blocks. -/
lemma TaskState.burst_stop {s : TaskState} {b : Nat} (hb : s.burst = wrap64 b)
    (hpos : 0 < s.lastRunAt) (now : Nat) (runnable : Bool) :
    (s.stop now runnable).burst = wrap64 (if runnable then now - s.lastRunAt + b else 0) := by
  cases runnable with
  | false => rfl
  | true =>
    unfold stop
    dsimp only
    rw [if_pos rfl, if_pos rfl, hb]
    split
    · rw [wrap64_wrap64_add, Nat.add_comm]
    · rw [Nat.sub_eq_zero_of_le (by omega), Nat.zero_add]

/-! ## The history of runs -/

/-- Something in the life of a task. -/
inductive TaskRecord where
  /-- Its state was created. -/
  | created (pid : Nat)
  /-- It ran on a core, and could have gone on or blocked. -/
  | ran (pid cpu began ended : Nat) (runnable : Bool)

namespace TaskRecord

/-- The task. -/
def pid : TaskRecord → Nat
  | created pid => pid
  | ran pid _ _ _ _ => pid

/-- How long it ran. -/
def length : TaskRecord → Nat
  | created _ => 0
  | ran _ _ began ended _ => ended - began

/-- How long it ran on a core. -/
def lengthOn (cpu : Nat) : TaskRecord → Nat
  | created _ => 0
  | ran _ c began ended _ => if c = cpu then ended - began else 0

/-- Whether a burst goes on with it: the task ran and did not block. -/
def goesOn : TaskRecord → Bool
  | created _ => false
  | ran _ _ _ _ runnable => runnable

end TaskRecord

/-- When cores began to run tasks, and what happened to tasks. -/
structure Timesheet where
  /-- When the first run on each core began. -/
  first : Nat → Option Nat := fun _ => none
  /-- When the last run on each core began. -/
  began : Nat → Nat := fun _ => 0
  /-- What happened to tasks, the latest first. -/
  records : List TaskRecord := []

namespace Timesheet

/-- A run begins on a core. -/
def beginRun (ts : Timesheet) (cpu now : Nat) : Timesheet :=
  { ts with
    first := fun c => if c = cpu then (ts.first c).or (some now) else ts.first c
    began := fun c => if c = cpu then now else ts.began c }

/-- Something happened to a task. -/
def record (ts : Timesheet) (r : TaskRecord) : Timesheet := { ts with records := r :: ts.records }

/-- The engine became another one, and perhaps created the state of a task. -/
def recordState (ts : Timesheet) (e e' : Engine) (pid : Nat) : Timesheet :=
  if (e.task? pid).isNone && (e'.task? pid).isSome then ts.record (.created pid) else ts

/-- Go on with the history over a call. -/
def note (ts : Timesheet) (e : Engine) : EngineCall → Timesheet
  | .selectCpu task prev => ts.recordState e (e.selectCpu task prev).2 task.pid
  | .enqueue task => ts.recordState e (e.enqueue task) task.pid
  | .running task => ts.beginRun task.cpu e.host.now
  | .stopping task runnable =>
    ts.record (.ran task.pid task.cpu (ts.began task.cpu) e.host.now runnable)
  | _ => ts

/-- How long tasks ran on a core. -/
def busy (ts : Timesheet) (cpu : Nat) : Nat := (ts.records.map (·.lengthOn cpu)).sum

/-- How long a task ran since it last blocked or, if it did not, since its state was created. -/
def burst (ts : Timesheet) (pid : Nat) : Nat :=
  (((ts.records.filter (·.pid == pid)).takeWhile (·.goesOn)).map (·.length)).sum

variable {ts : Timesheet} {cpu pid now : Nat}

lemma busy_record (ts : Timesheet) (r : TaskRecord) (cpu : Nat) :
    (ts.record r).busy cpu = r.lengthOn cpu + ts.busy cpu := by
  rw [busy, record, List.map_cons, List.sum_cons]
  rfl

lemma burst_record_of_ne (r : TaskRecord) (h : r.pid ≠ pid) :
    (ts.record r).burst pid = ts.burst pid := by
  rw [burst, record, List.filter_cons_of_neg (by simpa using h)]
  rfl

lemma burst_record_of_goesOn (r : TaskRecord) (h : r.goesOn = true) :
    (ts.record r).burst r.pid = r.length + ts.burst r.pid := by
  rw [burst, record, List.filter_cons_of_pos (by simp), List.takeWhile_cons_of_pos h, List.map_cons,
    List.sum_cons]
  rfl

lemma burst_record_of_not_goesOn (r : TaskRecord) (h : r.goesOn = false) :
    (ts.record r).burst r.pid = 0 := by
  rw [burst, record, List.filter_cons_of_pos (by simp), List.takeWhile_cons_of_neg (by simp [h])]
  rfl

/-- The burst of a task after it ran. -/
lemma burst_record_ran (ts : Timesheet) (pid cpu began ended : Nat) (runnable : Bool) :
    (ts.record (.ran pid cpu began ended runnable)).burst pid =
      if runnable then ended - began + ts.burst pid else 0 := by
  cases runnable with
  | false => exact burst_record_of_not_goesOn (.ran pid cpu began ended false) rfl
  | true => exact burst_record_of_goesOn (.ran pid cpu began ended true) rfl

/-! ## One core -/

/-- The meter of a core shows its history at the time `now`, where the core runs a task or none. -/
inductive Reads (ts : Timesheet) (now cpu : Nat) : Option Nat → Meter → Prop where
  /-- Nothing has run yet. -/
  | unused {m : Meter} (hfirst : ts.first cpu = none) (hruns : ts.busy cpu = 0)
      (hbusy : m.busy = 0) (hidle : m.idle = 0) (hlast : m.lastIdleAt = 0) : Reads ts now cpu none m
  /-- The core rests since the end of its last run. -/
  | resting {m : Meter} {first : Nat} (idle : Nat) (hfirst : ts.first cpu = some first)
      (hbusy : m.busy = wrap64 (ts.busy cpu)) (hidle : m.idle = wrap64 idle)
      (hsum : first + ts.busy cpu + idle = m.lastIdleAt) (hpos : 0 < m.lastIdleAt)
      (hnow : m.lastIdleAt ≤ now) : Reads ts now cpu none m
  /-- The core runs a task since the begin of its last run. -/
  | running {m : Meter} {pid first : Nat} (idle : Nat) (hfirst : ts.first cpu = some first)
      (hbusy : m.busy = wrap64 (ts.busy cpu)) (hidle : m.idle = wrap64 idle)
      (hsum : first + ts.busy cpu + idle = ts.began cpu) (hpos : 0 < ts.began cpu)
      (hnow : ts.began cpu ≤ now) (hpid : m.run.pid = pid) (hstart : m.run.startedAt = ts.began cpu)
      (hlast : m.lastIdleAt = 0) : Reads ts now cpu (some pid) m

namespace Reads

variable {x : Option Nat} {m : Meter}

lemma mono (h : ts.Reads now cpu x m) {now' : Nat} (hnow : now ≤ now') : ts.Reads now' cpu x m := by
  cases h with
  | unused hfirst hruns hbusy hidle hlast => exact .unused hfirst hruns hbusy hidle hlast
  | resting idle hfirst hbusy hidle hsum hpos hle =>
    exact .resting idle hfirst hbusy hidle hsum hpos (hle.trans hnow)
  | running idle hfirst hbusy hidle hsum hpos hle hpid hstart hlast =>
    exact .running idle hfirst hbusy hidle hsum hpos (hle.trans hnow) hpid hstart hlast

/-- What happens on other cores does not show. -/
lemma congr (h : ts.Reads now cpu x m) {ts' : Timesheet} (hfirst : ts'.first cpu = ts.first cpu)
    (hbegan : ts'.began cpu = ts.began cpu) (hbusy : ts'.busy cpu = ts.busy cpu) :
    ts'.Reads now cpu x m := by
  cases h with
  | unused hf hruns hb hidle hlast =>
    exact .unused (hfirst.trans hf) (hbusy.trans hruns) hb hidle hlast
  | resting idle hf hb hidle hsum hpos hle =>
    exact .resting idle (hfirst.trans hf) (hbusy ▸ hb) hidle (hbusy ▸ hsum) hpos hle
  | running idle hf hb hidle hsum hpos hle hpid hstart hlast =>
    rw [← hbegan] at hsum hpos hle hstart
    exact .running idle (hfirst.trans hf) (hbusy ▸ hb) hidle (hbusy ▸ hsum) hpos hle hpid hstart
      hlast

/-- A core that rests begins to run a task: it was idle since the end of its last run, if there was
one. -/
lemma beginRun (h : ts.Reads now cpu none m) (hnow : 0 < now) (urgency : Urgency) (pid : Nat) :
    (ts.beginRun cpu now).Reads now cpu (some pid) (m.beginRun urgency pid now) := by
  have hbegan : (ts.beginRun cpu now).began cpu = now := if_pos rfl
  have hfirst : (ts.beginRun cpu now).first cpu = (ts.first cpu).or (some now) := if_pos rfl
  have hruns : (ts.beginRun cpu now).busy cpu = ts.busy cpu := rfl
  cases h with
  | unused hf hr hbusy hidle hlast =>
    refine .running 0 (hfirst.trans (by rw [hf]; rfl)) ?_ ?_ ?_ ?_ ?_ rfl hbegan.symm rfl
    · rw [hruns, hr]
      exact hbusy
    · rw [Meter.beginRun, hlast, hidle]
      rfl
    · rw [hruns, hr, hbegan]
      rfl
    · omega
    · omega
  | resting idle hf hbusy hidle hsum hpos hle =>
    refine .running (idle + (now - m.lastIdleAt)) (hfirst.trans (by rw [hf]; rfl)) (hruns ▸ hbusy)
      ?_ ?_ ?_ ?_ rfl hbegan.symm rfl
    · rw [Meter.beginRun, hidle, elapsed, if_pos hpos, wrap64_wrap64_add]
    · rw [hruns, hbegan]
      omega
    · omega
    · omega

/-- A core ends the run of its task: it was busy since the begin of the run. -/
lemma endRun (h : ts.Reads now cpu (some pid) m) (runnable : Bool) :
    (ts.record (.ran pid cpu (ts.began cpu) now runnable)).Reads now cpu none
      (m.endRun pid now) := by
  cases h with
  | running idle hfirst hbusy hidle hsum hpos hle hpid hstart hlast =>
    have hruns : (ts.record (.ran pid cpu (ts.began cpu) now runnable)).busy cpu =
        (now - ts.began cpu) + ts.busy cpu := by
      rw [busy_record, TaskRecord.lengthOn, if_pos rfl]
    have hclear : (m.run.clearIf pid).1 = some (ts.began cpu) := by
      rw [RunState.clearIf, if_pos hpid, hstart]
    refine .resting idle hfirst ?_ hidle ?_ ?_ ?_
    · rw [Meter.endRun, hclear, hbusy, Option.getD_some, elapsed, if_pos hpos, wrap64_wrap64_add,
        hruns, Nat.add_comm]
    · rw [hruns]
      show _ = now
      omega
    · show 0 < now
      omega
    · exact Nat.le_refl now

end Reads

/-! ## The invariant -/

/-- The books of an engine show the history, where the tasks run that the occupancy says. -/
structure Matches (ts : Timesheet) (o : Occupancy) (e : Engine) : Prop where
  /-- So do the meters of all cores. -/
  meters : ∀ (cpu : Nat) (m : Meter), e.meters[cpu]? = some m → ts.Reads e.host.now cpu (o cpu) m
  /-- So do the bursts of tracked tasks. -/
  bursts : ∀ pid s, e.task? pid = some s → s.burst = wrap64 (ts.burst pid)
  /-- A tracked task that runs remembers when its run began. -/
  begun : ∀ cpu pid s, o cpu = some pid → e.task? pid = some s → s.lastRunAt = ts.began cpu
  /-- A run began at a time, which is not yet to come, and after all that counts for the burst. -/
  runs : ∀ cpu pid, o cpu = some pid →
    0 < ts.began cpu ∧ ts.burst pid ≤ ts.began cpu ∧ ts.began cpu ≤ e.host.now
  /-- There was time for all that counts for a burst. -/
  past : ∀ pid, ts.burst pid ≤ e.host.now

namespace Matches

variable {o : Occupancy} {e e' : Engine}

/-- What becomes of the engine does not show if time only goes on, and of what is remembered of
tasks only that is written which does not matter for the time they ran. -/
lemma of_same (h : ts.Matches o e) (hm : e'.meters = e.meters) (hnow : e.host.now ≤ e'.host.now)
    (ht : ∀ p s', e'.task? p = some s' → ∃ s, e.task? p = some s ∧ s'.burst = s.burst ∧
      ∀ cpu, o cpu = some p → s'.lastRunAt = s.lastRunAt) : ts.Matches o e' where
  meters cpu m hcpu := (h.meters cpu m (hm ▸ hcpu)).mono hnow
  bursts p s' hs' := by
    obtain ⟨s, hs, hburst, -⟩ := ht p s' hs'
    rw [hburst, h.bursts p s hs]
  begun cpu p s' ho hs' := by
    obtain ⟨s, hs, -, hlast⟩ := ht p s' hs'
    rw [hlast cpu ho, h.begun cpu p s ho hs]
  runs cpu p ho := by
    obtain ⟨hpos, hburst, hle⟩ := h.runs cpu p ho
    exact ⟨hpos, hburst, hle.trans hnow⟩
  past p := (h.past p).trans hnow

lemma of_tasks_eq (h : ts.Matches o e) (hm : e'.meters = e.meters)
    (hnow : e.host.now ≤ e'.host.now) (ht : e'.tasks = e.tasks) : ts.Matches o e' :=
  h.of_same hm hnow fun p s' hs' =>
    ⟨s', by rw [← hs', Engine.task?, Engine.task?, ht], rfl, fun _ _ => rfl⟩

/-- What is remembered of a task that rests is written, but for its burst, or its state is created. -/
lemma touch (h : ts.Matches o e) {pid : Nat} (hrests : o.Rests pid) (hm : e'.meters = e.meters)
    (hnow : e'.host.now = e.host.now) (hothers : ∀ p, p ≠ pid → e'.task? p = e.task? p)
    (hself : ∀ s', e'.task? pid = some s' →
      (∃ s, e.task? pid = some s ∧ s'.burst = s.burst) ∨ e.task? pid = none ∧ s'.burst = 0) :
    (ts.recordState e e' pid).Matches o e' := by
  have hne : ∀ cpu p, o cpu = some p → p ≠ pid := by
    rintro cpu p ho rfl
    exact hrests cpu ho
  unfold recordState
  split
  · next hnew =>
    obtain ⟨hnone, -⟩ := Bool.and_eq_true_iff.1 hnew
    rw [Option.isNone_iff_eq_none] at hnone
    have hburst : ∀ p, p ≠ pid → (ts.record (.created pid)).burst p = ts.burst p :=
      fun p hp => burst_record_of_ne (.created pid) (Ne.symm hp)
    have hburst₀ : (ts.record (.created pid)).burst pid = 0 :=
      burst_record_of_not_goesOn (.created pid) rfl
    refine ⟨fun cpu m hcpu => ?_, fun p s' hs' => ?_, fun cpu p s' ho hs' => ?_, fun cpu p ho => ?_,
      fun p => ?_⟩
    · rw [hm] at hcpu
      rw [hnow]
      exact (h.meters cpu m hcpu).congr rfl rfl (by rw [busy_record]; exact Nat.zero_add _)
    · by_cases hp : p = pid
      · subst hp
        rcases hself s' hs' with ⟨s, hs, -⟩ | ⟨-, hzero⟩
        · rw [hnone] at hs
          cases hs
        · rw [hzero, hburst₀]
          rfl
      · rw [hburst p hp]
        exact h.bursts p s' (hothers p hp ▸ hs')
    · exact h.begun cpu p s' ho (hothers p (hne cpu p ho) ▸ hs')
    · rw [hburst p (hne cpu p ho), hnow]
      exact h.runs cpu p ho
    · by_cases hp : p = pid
      · rw [hp, hburst₀]
        exact Nat.zero_le _
      · rw [hburst p hp, hnow]
        exact h.past p
  · next hnew =>
    refine h.of_same hm (Nat.le_of_eq hnow.symm) fun p s' hs' => ?_
    by_cases hp : p = pid
    · subst hp
      rcases hself s' hs' with ⟨s, hs, hburst⟩ | ⟨hnone, -⟩
      · exact ⟨s, hs, hburst, fun cpu ho => absurd ho (hrests cpu)⟩
      · exact absurd (by rw [hnone, hs']; rfl) hnew
    · exact ⟨s', hothers p hp ▸ hs', rfl, fun _ _ => rfl⟩

lemma running (h : ts.Matches o e) (hsound : e.tasks.Sound) {task : Task}
    (hnow : 0 < e.host.now) (ho : o task.cpu = none) (hrests : o.Rests task.pid) :
    (ts.beginRun task.cpu e.host.now).Matches (o.set task.cpu (some task.pid))
      (e.running task) := by
  have hr := e.result_running task
  have hhost := hr.outcome.host_eq
  obtain ⟨hthis, hother⟩ := Engine.task?_of_modify hsound hr.tasks_eq
  have hbegan : ∀ cpu, (ts.beginRun task.cpu e.host.now).began cpu =
      if cpu = task.cpu then e.host.now else ts.began cpu := fun _ => rfl
  refine ⟨fun cpu m hcpu => ?_, fun p s' hs' => ?_, fun cpu p s' hcpu hs' => ?_,
    fun cpu p hcpu => ?_, fun p => ?_⟩
  · rw [e.meters_running, Array.getElem?_modify] at hcpu
    rw [hhost]
    split at hcpu
    · next hc =>
      subst hc
      obtain ⟨m, hm, rfl⟩ := Option.map_eq_some_iff.1 hcpu
      rw [Occupancy.set_self]
      exact (ho ▸ h.meters task.cpu m hm).beginRun hnow _ task.pid
    · next hc =>
      rw [Occupancy.set_of_ne _ _ (Ne.symm hc)]
      exact (h.meters cpu m hcpu).congr (if_neg (Ne.symm hc)) (if_neg (Ne.symm hc)) rfl
  · by_cases hp : p = task.pid
    · subst hp
      obtain ⟨s, hs, rfl⟩ := Option.map_eq_some_iff.1 (hthis.symm.trans hs')
      exact h.bursts task.pid s hs
    · exact h.bursts p s' (hother p hp ▸ hs')
  · rw [hbegan]
    by_cases hc : cpu = task.cpu
    · subst hc
      rw [Occupancy.set_self] at hcpu
      obtain rfl := Option.some.inj hcpu
      obtain ⟨s, hs, rfl⟩ := Option.map_eq_some_iff.1 (hthis.symm.trans hs')
      rw [if_pos rfl]
    · rw [Occupancy.set_of_ne _ _ hc] at hcpu
      have hp : p ≠ task.pid := by
        rintro rfl
        exact hrests cpu hcpu
      rw [if_neg hc]
      exact h.begun cpu p s' hcpu (hother p hp ▸ hs')
  · rw [hbegan, hhost]
    by_cases hc : cpu = task.cpu
    · rw [if_pos hc]
      exact ⟨hnow, h.past p, Nat.le_refl _⟩
    · rw [Occupancy.set_of_ne _ _ hc] at hcpu
      rw [if_neg hc]
      exact h.runs cpu p hcpu
  · rw [hhost]
    exact h.past p

lemma stopping (h : ts.Matches o e) (hsound : e.tasks.Sound) {task : Task}
    (ho : o task.cpu = some task.pid) (honce : ∀ cpu, o cpu = some task.pid → cpu = task.cpu)
    (runnable : Bool) :
    (ts.record (.ran task.pid task.cpu (ts.began task.cpu) e.host.now runnable)).Matches
      (o.set task.cpu none) (e.stopping task runnable) := by
  have hr := e.result_stopping task runnable
  have hhost := hr.outcome.host_eq
  obtain ⟨hthis, hother⟩ := Engine.task?_of_modify hsound hr.tasks_eq
  have hthat := ts.burst_record_ran task.pid task.cpu (ts.began task.cpu) e.host.now runnable
  obtain ⟨hpos, hbefore, hle⟩ := h.runs task.cpu task.pid ho
  have hburst : ∀ p, p ≠ task.pid →
      (ts.record (.ran task.pid task.cpu (ts.began task.cpu) e.host.now runnable)).burst p =
        ts.burst p := fun p hp =>
    burst_record_of_ne (.ran task.pid task.cpu (ts.began task.cpu) e.host.now runnable) (Ne.symm hp)
  -- what runs on another core is another task
  have hstill : ∀ cpu p, (o.set task.cpu none) cpu = some p → o cpu = some p ∧ p ≠ task.pid := by
    intro cpu p hcpu
    by_cases hc : cpu = task.cpu
    · rw [hc, Occupancy.set_self] at hcpu
      cases hcpu
    · rw [Occupancy.set_of_ne _ _ hc] at hcpu
      refine ⟨hcpu, ?_⟩
      rintro rfl
      exact hc (honce cpu hcpu)
  refine ⟨fun cpu m hcpu => ?_, fun p s' hs' => ?_, fun cpu p s' hcpu hs' => ?_,
    fun cpu p hcpu => ?_, fun p => ?_⟩
  · rw [e.meters_stopping, Array.getElem?_modify] at hcpu
    rw [hhost]
    split at hcpu
    · next hc =>
      subst hc
      obtain ⟨m, hm, rfl⟩ := Option.map_eq_some_iff.1 hcpu
      rw [Occupancy.set_self]
      exact (ho ▸ h.meters task.cpu m hm).endRun runnable
    · next hc =>
      rw [Occupancy.set_of_ne _ _ (Ne.symm hc)]
      refine (h.meters cpu m hcpu).congr rfl rfl ?_
      rw [busy_record, TaskRecord.lengthOn, if_neg hc, Nat.zero_add]
  · by_cases hp : p = task.pid
    · subst hp
      obtain ⟨s, hs, rfl⟩ := Option.map_eq_some_iff.1 (hthis.symm.trans hs')
      have hlast := h.begun task.cpu task.pid s ho hs
      rw [hthat, TaskState.burst_stop (h.bursts task.pid s hs) (hlast ▸ hpos), hlast]
    · rw [hburst p hp]
      exact h.bursts p s' (hother p hp ▸ hs')
  · obtain ⟨ho', hp⟩ := hstill cpu p hcpu
    exact h.begun cpu p s' ho' (hother p hp ▸ hs')
  · obtain ⟨ho', hp⟩ := hstill cpu p hcpu
    rw [hburst p hp, hhost]
    exact h.runs cpu p ho'
  · rw [hhost]
    by_cases hp : p = task.pid
    · rw [hp, hthat]
      split
      · omega
      · exact Nat.zero_le _
    · rw [hburst p hp]
      exact h.past p

end Matches

end Timesheet

/-! ## Runs -/

namespace Engine

/-- The clock of the platform never goes back, and is positive when a run begins. -/
def KeepsTime (e : Engine) : EngineCall → Prop
  | .running _ => 0 < e.host.now
  | .platform host => e.host.now ≤ host.now
  | _ => True

/-- The clock does so over calls in order. -/
def KeepsTimeAll (e : Engine) : List EngineCall → Prop
  | [] => True
  | c :: cs => e.KeepsTime c ∧ (e.after c).KeepsTimeAll cs

instance decidableKeepsTime (e : Engine) : (c : EngineCall) → Decidable (e.KeepsTime c)
  | .running _ => Nat.decLt _ _
  | .platform _ => Nat.decLe _ _
  | .selectCpu _ _ | .enqueue _ | .dispatch _ | .stopping _ _ | .tick _ | .noteProfileMatch _
  | .taskExit _ | .exit _ | .readEvents | .settings _ | .knowledge _ => .isTrue trivial

instance decidableKeepsTimeAll (e : Engine) : (cs : List EngineCall) → Decidable (e.KeepsTimeAll cs)
  | [] => .isTrue trivial
  | c :: cs =>
    have := decidableKeepsTimeAll (e.after c) cs
    inferInstanceAs (Decidable (e.KeepsTime c ∧ (e.after c).KeepsTimeAll cs))

/-- The history over calls in order. -/
def timesheet (e : Engine) (ts : Timesheet) : List EngineCall → Timesheet
  | [] => ts
  | c :: cs => (e.after c).timesheet (ts.note e c) cs

end Engine

/-- The burst of a task that is tracked now is what it was, or zero if its state is new. -/
lemma TaskTable.Sound.burst_track {t : TaskTable} (h : t.Sound) {pid : Nat} {s : TaskState}
    (hs : (t.track pid).get? pid = some s) :
    (∃ s₀, t.get? pid = some s₀ ∧ s.burst = s₀.burst) ∨ t.get? pid = none ∧ s.burst = 0 := by
  rcases h.get?_track_self pid with hself | ⟨hnone, hself⟩
  · exact .inl ⟨s, hself ▸ hs, rfl⟩
  · obtain rfl : {} = s := Option.some.inj (hself.symm.trans hs)
    exact .inr ⟨hnone, rfl⟩

namespace Timesheet.Matches

variable {t : Topology} {o : Occupancy} {ts : Timesheet} {e : Engine}

lemma selectCpu (h : ts.Matches o e) (hsound : e.tasks.Sound) {task : Task}
    (hrests : o.Rests task.pid) (prev : Nat) :
    (ts.recordState e (e.selectCpu task prev).2 task.pid).Matches o (e.selectCpu task prev).2 := by
  obtain ⟨found, host, tasks, -, hsearch, hrevised, hr⟩ := e.result_selectCpu task prev
  obtain ⟨-, hothers⟩ := hsound.revised hrevised
  refine h.touch hrests ?_ ?_ (fun p hp => ?_) fun s' hs' => ?_
  · rw [Machine.meters, Machine.meters, e.cores_selectCpu]
  · rw [hr.outcome.host_eq]
    cases found with
    | none => exact hsearch.now_eq
    | some cpu => exact hsearch.now_eq
  · rw [Engine.task?, hr.tasks_eq]
    exact hothers p hp
  · rcases hw : e.woken? task prev with _ | s
    · rw [Engine.task?, Engine.tasks_selectCpu_of_not_woken? hw] at hs'
      exact hsound.burst_track hs'
    · rw [Engine.task?_selectCpu_of_woken? hsound hw] at hs'
      obtain rfl := Option.some.inj hs'
      rw [Machine.burst_refresh]
      exact hsound.burst_track (Engine.get?_track_of_woken? hw)

lemma enqueue (h : ts.Matches o e) (hsound : e.tasks.Sound) {task : Task}
    (hrests : o.Rests task.pid) :
    (ts.recordState e (e.enqueue task) task.pid).Matches o (e.enqueue task) := by
  obtain ⟨_, kicks, tasks, hrevised, hr⟩ := e.result_enqueue task
  obtain ⟨-, hothers⟩ := hsound.revised hrevised
  refine h.touch hrests (e.meters_enqueue task) ?_ (fun p hp => ?_) fun s' hs' => ?_
  · rw [hr.outcome.host_eq]
  · rw [Engine.task?, hr.tasks_eq]
    exact hothers p hp
  · obtain ⟨-, hself, -⟩ := (hsound.track task.pid).1.modify task.pid fun s =>
      { s with
        enqueuedAt := e.host.now
        lastDomain := (e.topology.domainOf? task.cpu).or s.lastDomain }
    rw [Engine.task?, e.tasks_enqueue, hself] at hs'
    obtain ⟨s, hs, rfl⟩ := Option.map_eq_some_iff.1 hs'
    have hburst := hsound.burst_track hs
    exact hburst

lemma taskExit (h : ts.Matches o e) (hsound : e.tasks.Sound) (pid : Nat) :
    ts.Matches o (e.taskExit pid) := by
  have htasks : (e.taskExit pid).tasks = e.tasks.remove pid := (e.result_taskExit pid).tasks_eq
  refine h.of_same rfl (Nat.le_refl _) fun p s' hs' => ?_
  rw [Engine.task?, htasks] at hs'
  by_cases hp : p = pid
  · rw [hp, hsound.get?_remove_self] at hs'
    cases hs'
  · exact ⟨s', ((hsound.remove pid).2 p hp).symm.trans hs', rfl, fun _ _ => rfl⟩

/-- Whatever happens in the life cycle of tasks while the clock goes on, the books go on to show the
history. -/
lemma after (h : ts.Matches o e) (hmirrors : Mirrors t o e) {c : EngineCall}
    (hp : o.Permits t c) (htime : e.KeepsTime c) :
    (ts.note e c).Matches (o.after c) (e.after c) := by
  have hsound := hmirrors.sound
  cases c with
  | selectCpu task prev => exact h.selectCpu hsound hp prev
  | enqueue task => exact h.enqueue hsound hp
  | dispatch cpu =>
    have hm := e.meters_dispatch cpu
    rcases hpop : e.queues.popFirst? (drainOrder e.topology cpu) with _ | ⟨w, queues⟩
    · have hr := (e.result_dispatch_none hpop).2
      exact h.of_tasks_eq hm (Nat.le_of_eq (by rw [← hr.outcome.host_eq]; rfl)) hr.tasks_eq
    · have hr := (e.result_dispatch_some hpop).2
      exact h.of_tasks_eq hm (Nat.le_of_eq (by rw [← hr.outcome.host_eq]; rfl)) hr.tasks_eq
  | running task => exact h.running hsound htime hp.2.1 hp.2.2
  | stopping task runnable =>
    exact h.stopping hsound hp (fun cpu ho => hmirrors.once cpu task.cpu _ ho hp) runnable
  | tick cpu =>
    have hr := e.result_tick cpu
    exact h.of_tasks_eq (e.meters_tick cpu) (Nat.le_of_eq (by rw [← hr.outcome.host_eq]; rfl))
      hr.tasks_eq
  | taskExit pid => exact h.taskExit hsound pid
  | platform host => exact h.of_tasks_eq rfl htime rfl
  | noteProfileMatch | exit | readEvents | settings | knowledge =>
    exact h.of_tasks_eq rfl (Nat.le_refl _) rfl

lemma afterAll (h : ts.Matches o e) (hmirrors : Mirrors t o e) {cs : List EngineCall}
    (hp : o.PermitsAll t cs) (htime : e.KeepsTimeAll cs) :
    (e.timesheet ts cs).Matches (o.afterAll cs) (e.afterAll cs) := by
  induction cs generalizing o ts e with
  | nil => exact h
  | cons c cs ih => exact ih (h.after hmirrors hp.1 htime.1) (hmirrors.after hp.1) hp.2 htime.2

/-- When nothing has happened, nothing has run. -/
lemma start (t : Topology) (config : EngineConfig) (tunables : TunablesCell) (hints : Hints)
    (host : Host) (queues : DispatchQueues) :
    Matches {} .empty ⟨.make t config tunables hints host, .ofCapacity config.taskCapacity, queues,
      none⟩ where
  meters cpu m hm := by
    change ((Array.replicate t.nrCpus _).map _)[cpu]? = _ at hm
    rw [Array.map_replicate, Array.getElem?_replicate] at hm
    split at hm
    · rw [← Option.some.inj hm]
      exact .unused rfl rfl rfl rfl rfl
    · cases hm
  bursts pid s hs := by
    rw [Engine.task?, TaskTable.get?_ofCapacity] at hs
    cases hs
  begun _ _ _ h := by cases h
  runs _ _ h := by cases h
  past _ := Nat.zero_le _

/-- When a task stops, its core was busy or idle all the time since its first run began. -/
lemma core_of_stopping (h : ts.Matches o e) (hmirrors : Mirrors t o e) {task : Task}
    (ho : o task.cpu = some task.pid) {runnable : Bool} {ts' : Timesheet}
    (hts : ts.note e (.stopping task runnable) = ts') :
    ∃ c first, (e.stopping task runnable).core? task.cpu = some c ∧
      ts'.first task.cpu = some first ∧ first + ts'.busy task.cpu ≤ e.host.now ∧
      c.stats.busy = wrap64 (ts'.busy task.cpu) ∧
      wrap64 (c.stats.busy + c.stats.idle) = wrap64 (e.host.now - first) := by
  obtain ⟨c₀, hc₀, -⟩ := hmirrors.core (hmirrors.inside _ _ ho)
  have hmeter : e.meters[task.cpu]? = some c₀.meter := by
    rw [Machine.getElem?_meters, hc₀, Option.map_some]
  have hafter : (e.stopping task runnable).meters[task.cpu]? =
      some (c₀.meter.endRun task.pid e.host.now) := by
    rw [e.meters_stopping, Array.getElem?_modify, if_pos rfl, hmeter, Option.map_some]
  rw [Machine.getElem?_meters] at hafter
  obtain ⟨c, hc, hm⟩ := Option.map_eq_some_iff.1 hafter
  have hends : ts'.Reads e.host.now task.cpu none c.meter := by
    rw [hm, ← hts]
    exact (ho ▸ h.meters task.cpu _ hmeter).endRun runnable
  obtain ⟨hpos, -, hle⟩ := h.runs task.cpu task.pid ho
  have hlast : c.meter.lastIdleAt = e.host.now := by rw [hm]; rfl
  cases hends with
  | unused _ _ _ _ hzero =>
    -- the core went idle just now, and now is not zero
    omega
  | @resting _ first idle hfirst hbusy hidle hsum _ _ =>
    refine ⟨c, first, hc, hfirst, by omega, hbusy, ?_⟩
    have hidle : c.stats.idle = wrap64 idle := hidle
    have hbusy : c.stats.busy = wrap64 _ := hbusy
    rw [hbusy, hidle, wrap64_wrap64_add, Nat.add_comm, wrap64_wrap64_add]
    congr 1
    omega

end Timesheet.Matches

namespace Engine

/-- Running time is accounted for exactly.  From the start of an engine on, let the platform keep to
the life cycle of tasks and its clock never go back and be positive when a run begins.  Whenever a
task stops, the core that it ran on was busy for as long as tasks ran there, and busy or idle for all
the time from the begin of the first run there until now; and the burst of each tracked task is as
long as the task ran since it last blocked or, if it did not, since its state was created.  Sums are
kept in machine words, but none of them exceeds the time on the clock. -/
theorem running_time_accounted (t : Topology) (config : EngineConfig) (tunables : TunablesCell)
    (hints : Hints) (host : Host) :
    ∃ e₀, start t config tunables hints host = .ok e₀ ∧
      ∀ calls, Occupancy.PermitsAll t .empty calls → e₀.KeepsTimeAll calls →
        ∀ o ts e, Occupancy.afterAll .empty calls = o → e₀.timesheet {} calls = ts →
          e₀.afterAll calls = e →
          ∀ task runnable, o.Permits t (.stopping task runnable) →
            ∀ ts' e', ts.note e (.stopping task runnable) = ts' → e.stopping task runnable = e' →
              (∃ c first, e'.core? task.cpu = some c ∧ ts'.first task.cpu = some first ∧
                first + ts'.busy task.cpu ≤ e.host.now ∧
                c.stats.busy = wrap64 (ts'.busy task.cpu) ∧
                wrap64 (c.stats.busy + c.stats.idle) = wrap64 (e.host.now - first)) ∧
              ∀ pid s, e'.task? pid = some s →
                s.burst = wrap64 (ts'.burst pid) ∧ ts'.burst pid ≤ e.host.now := by
  obtain ⟨queues, -, hstart⟩ := exists_start t config tunables hints host
  refine ⟨_, hstart, fun calls hp htime o ts e ho hts he task runnable hstop ts' e' hts' he' => ?_⟩
  have hmirrors := (Mirrors.start t config tunables hints host queues).afterAll hp
  have h := (Timesheet.Matches.start t config tunables hints host queues).afterAll
    (Mirrors.start t config tunables hints host queues) hp htime
  rw [ho, he] at hmirrors
  rw [hts, ho, he] at h
  subst he'
  refine ⟨h.core_of_stopping hmirrors hstop hts', fun pid s hs => ?_⟩
  have hafter := h.after (c := .stopping task runnable) hmirrors hstop trivial
  rw [hts'] at hafter
  have hnow : (e.stopping task runnable).host.now = e.host.now := by
    rw [(e.outcome_stopping task runnable).host_eq]
  exact ⟨hafter.bursts pid s hs, hnow ▸ hafter.past pid⟩

/-- A compiler runs on the first core, on the second one and, after another task ran there for no time
at all, on the first one again. -/
def sharedCore : List EngineCall :=
  let clock (now : Nat) : EngineCall := .platform { Host.ofTopology .twoDomains with now := now }
  let compiler (cpu : Nat) : Task := { player 3 "make" with cpu := cpu }
  [clock 100, .selectCpu (compiler 0) 0, .running (compiler 0), clock 130,
    .stopping (compiler 0) true, .running (compiler 1), clock 140, .stopping (compiler 1) true,
    clock 150, .running (player 7 "sh"), .stopping (player 7 "sh") false, clock 170,
    .running (compiler 0), clock 200]

lemma permitsAll_sharedCore : Occupancy.PermitsAll .twoDomains .empty sharedCore := by
  have h₀ : ∀ pid, Occupancy.empty.Rests pid := Occupancy.rests_empty
  have h₁ : ((Occupancy.empty.set 0 (some 3)).set 0 none).Rests 3 := by
    rw [Occupancy.set_set]
    exact (h₀ 3).set (by simp)
  have h₂ : ∀ pid, ((((Occupancy.empty.set 0 (some 3)).set 0 none).set 1 (some 3)).set 1 none).Rests
      pid := by
    intro pid
    rw [Occupancy.set_set, Occupancy.set_set]
    exact ((h₀ pid).set (by simp)).set (by simp)
  have h₃ : ((((((Occupancy.empty.set 0 (some 3)).set 0 none).set 1 (some 3)).set 1 none).set 0
      (some 7)).set 0 none).Rests 3 := by
    rw [Occupancy.set_set]
    exact (h₂ 3).set (by simp)
  exact ⟨trivial, h₀ 3, ⟨by decide, rfl, h₀ 3⟩, trivial, rfl, ⟨by decide, rfl, h₁⟩, trivial, rfl,
    trivial, ⟨by decide, rfl, h₂ 7⟩, rfl, trivial, ⟨by decide, rfl, h₃⟩, trivial, trivial⟩

theorem running_time_accounted_sharedCore :
    Occupancy.PermitsAll .twoDomains .empty sharedCore ∧ onTwoDomains.KeepsTimeAll sharedCore ∧
      (∃ c, ((onTwoDomains.afterAll sharedCore).stopping (player 3 "make") true).core? 0 = some c ∧
        c.stats.busy = 60 ∧ wrap64 (c.stats.busy + c.stats.idle) = 100) ∧
      ∃ s, ((onTwoDomains.afterAll sharedCore).stopping (player 3 "make") true).task? 3 = some s ∧
        s.burst = 70 := by
  obtain ⟨e₀, hstart, h⟩ := running_time_accounted .twoDomains { taskCapacity := 0 } none {}
    (.ofTopology .twoDomains)
  obtain rfl : onTwoDomains = e₀ := Except.ok.inj (start_twoDomains.symm.trans hstart)
  have htime : onTwoDomains.KeepsTimeAll sharedCore := by decide +kernel
  obtain ⟨⟨c, first, hc, hfirst, -, hbusy, hsum⟩, hbursts⟩ := h sharedCore permitsAll_sharedCore
    htime _ _ _ rfl rfl rfl (player 3 "make") true rfl _ _ rfl rfl
  have htracked : (((onTwoDomains.afterAll sharedCore).stopping (player 3 "make") true).task?
      3).isSome = true := by decide +kernel
  obtain ⟨s, hs⟩ := Option.isSome_iff_exists.1 htracked
  obtain ⟨hburst, -⟩ := hbursts 3 s hs
  obtain rfl : 100 = first := by
    refine Option.some.inj (.trans ?_ hfirst)
    decide +kernel
  refine ⟨permitsAll_sharedCore, htime, ⟨c, hc, hbusy.trans ?_, hsum.trans ?_⟩, s, hs,
    hburst.trans ?_⟩
  all_goals decide +kernel

end Engine

end CoreSteer
