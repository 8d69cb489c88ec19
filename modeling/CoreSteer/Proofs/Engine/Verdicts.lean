import CoreSteer.Proofs.Engine.Tallies
/-!
# A task is classified once

The verdict on a task is its classification, and the time when it was made.  It is kept flag by
flag, beside flags that every waking up writes anew.  From the time a task comes to be tracked until
it is gone one verdict at most is passed on it; that one stays, whatever becomes of the hints, the
processes, the settings and the task's own name in the meantime.  Only a call that passes a verdict
counts in the counters of classification, and only such a call reports that a task is gaming.
-/
namespace CoreSteer

/-- The classification of a task and when it was made, once it is classified. -/
def Findings.verdict? (f : Findings) : Option (Classification × Nat) :=
  if f.flags.classified then
    some ({
      gaming := f.flags.classGaming
      proton := f.flags.proton
      gpuFeeder := f.flags.gpuFeeder
      workload := f.workload }, f.classifiedAt)
  else none

namespace Machine

variable (m : Machine) (task : Task) {s : TaskState}

/-- What the sources say about a task now, and what time it is. -/
def judgement : Classification × Nat := ((m.classifyAnew task).1, m.host.now)

lemma verdict?_refresh_of_classified (h : s.flags.classified = true) (prev : Nat) :
    (m.refresh task s prev).1.findings.verdict? = s.findings.verdict? := by
  unfold refresh
  rw [classify_of_classified _ _ h]
  rfl

lemma verdict?_refresh_of_unclassified (h : s.flags.classified = false) (prev : Nat) :
    (m.refresh task s prev).1.findings.verdict? = some (m.judgement task) := by
  have hstate := m.state_classify_of_unclassified task h
  unfold refresh
  dsimp only [TaskState.findings]
  rw [hstate]
  rfl

lemma counters_refresh_of_classified (h : s.flags.classified = true) (prev : Nat) :
    (m.refresh task s prev).2.counters = m.counters := by
  unfold refresh
  rw [classify_of_classified _ _ h]

lemma counters_refresh_of_unclassified (h : s.flags.classified = false) (prev : Nat) :
    (m.refresh task s prev).2.counters = (m.classifyAnew task).2.counters := by
  unfold refresh classify
  rw [if_neg (by rw [h]; exact Bool.false_ne_true)]
  dsimp only
  split <;> rfl

end Machine

/-! ## Verdicts -/

namespace Engine

variable {e : Engine} {pid : Nat} {c : EngineCall}

/-- The verdict on a task, if one was passed. -/
def verdict? (e : Engine) (pid : Nat) : Option (Classification × Nat) :=
  (e.findings? pid).bind (·.verdict?)

/-- The task that a call classifies: one that wakes up, is to be refreshed and was not classified
before. -/
def classifies? (e : Engine) : EngineCall → Option Task
  | .selectCpu task prev =>
    match e.woken? task prev with
    | some s => if s.flags.classified then none else some task
    | none => none
  | _ => none

/-- The verdict that a call passes on a task. -/
def passes? (e : Engine) (pid : Nat) (c : EngineCall) : Option (Classification × Nat) :=
  ((e.classifies? c).filter (·.pid == pid)).map e.judgement

/-- The verdicts that calls pass on a task, in order. -/
def passed (e : Engine) (pid : Nat) : List EngineCall → List (Classification × Nat)
  | [] => []
  | c :: cs => (e.passes? pid c).toList ++ (e.after c).passed pid cs

lemma classifies?_eq_some {task : Task} (h : e.classifies? c = some task) :
    ∃ prev s, c = .selectCpu task prev ∧ e.woken? task prev = some s ∧
      s.flags.classified = false := by
  unfold classifies? at h
  split at h
  · next task' prev =>
    split at h
    · next s hs =>
      split at h
      · cases h
      · next hc =>
        obtain rfl := Option.some.inj h
        exact ⟨prev, s, rfl, hs, Bool.eq_false_iff.2 hc⟩
    · cases h
  · cases h

/-- The task that wakes up has the verdict that it had before it came to be tracked. -/
lemma verdict?_of_woken? (h : e.tasks.Sound) {task : Task} {prev : Nat} {s : TaskState}
    (hs : e.woken? task prev = some s) : e.verdict? task.pid = s.findings.verdict? := by
  have htrack := get?_track_of_woken? hs
  rcases h.get?_track_self task.pid with hself | ⟨hnone, hself⟩
  · rw [verdict?, findings?, task?, ← hself, htrack]
    rfl
  · obtain rfl : {} = s := Option.some.inj (hself.symm.trans htrack)
    rw [verdict?, findings?, task?, hnone]
    rfl

lemma verdict?_of_findings {f : Findings} (h : e.findings? pid = some f) :
    e.verdict? pid = f.verdict? := by
  rw [verdict?, h]
  rfl

/-- A verdict is passed on a task only where there is none, and then it is the verdict on that
task. -/
lemma verdict?_of_passes? (h : e.tasks.Sound) {v : Classification × Nat}
    (hv : e.passes? pid c = some v) :
    e.verdict? pid = none ∧ (e.after c).verdict? pid = some v := by
  obtain ⟨task, hfilter, rfl⟩ := Option.map_eq_some_iff.1 hv
  obtain ⟨hclassifies, hpid⟩ := Option.filter_eq_some_iff.1 hfilter
  obtain ⟨prev, s, rfl, hs, hunclassified⟩ := classifies?_eq_some hclassifies
  obtain rfl : task.pid = pid := by simpa using hpid
  constructor
  · rw [verdict?_of_woken? h hs, Findings.verdict?]
    exact if_neg (by rw [TaskState.findings, hunclassified]; exact Bool.false_ne_true)
  · rw [verdict?_of_findings (f := (e.toMachine.refresh task s prev).1.findings)]
    · exact e.toMachine.verdict?_refresh_of_unclassified task hunclassified prev
    · rw [findings?, after, task?_selectCpu_of_woken? h hs, Option.map_some]

/-- Where no verdict is passed on a task that stays, the verdict on it stays. -/
lemma verdict?_of_not_passes? (h : e.tasks.Sound) (hc : c ≠ .taskExit pid)
    (hv : e.passes? pid c = none) : (e.after c).verdict? pid = e.verdict? pid := by
  cases learns_after h pid c with
  | kept c hkept => rw [verdict?, verdict?, hkept]
  | new c hnone hnew =>
    rw [verdict?, verdict?, hnone, hnew]
    rfl
  | refreshed task prev s hpid hs hrefreshed =>
    subst hpid
    have hclassified : s.flags.classified = true := by
      by_contra hno
      simp [passes?, classifies?, hs, hno] at hv
    rw [verdict?_of_woken? h hs, verdict?_of_findings (congrArg _ hrefreshed)]
    exact e.toMachine.verdict?_refresh_of_classified task hclassified prev
  | forgotten hnone => exact absurd rfl hc

/-- While a task stays, no second verdict is passed on it. -/
lemma passed_of_verdict? (h : e.tasks.Sound) {cs : List EngineCall} (hcs : .taskExit pid ∉ cs)
    {v : Classification × Nat} (hv : e.verdict? pid = some v) :
    e.passed pid cs = [] ∧ (e.afterAll cs).verdict? pid = some v := by
  induction cs generalizing e with
  | nil => exact ⟨rfl, hv⟩
  | cons c cs ih =>
    obtain ⟨hc, hcs⟩ := not_or.1 (mt List.mem_cons.2 hcs)
    have hno : e.passes? pid c = none := by
      rcases hp : e.passes? pid c with _ | v'
      · rfl
      · rw [(verdict?_of_passes? h hp).1] at hv
        cases hv
    have hkept := (verdict?_of_not_passes? h (Ne.symm hc) hno).trans hv
    obtain ⟨hnone, hstays⟩ := ih (sound_after h c) hcs hkept
    exact ⟨by rw [passed, hno, hnone]; rfl, hstays⟩

/-- While a task stays on which no verdict was passed, the first verdict passed on it is the only
one, and it is the verdict on the task from then on. -/
lemma passed_of_no_verdict? (h : e.tasks.Sound) {cs : List EngineCall}
    (hcs : .taskExit pid ∉ cs) (hv : e.verdict? pid = none) :
    (e.passed pid cs).length ≤ 1 ∧ (e.afterAll cs).verdict? pid = (e.passed pid cs).head? := by
  induction cs generalizing e with
  | nil => exact ⟨Nat.zero_le 1, hv⟩
  | cons c cs ih =>
    obtain ⟨hc, hcs⟩ := not_or.1 (mt List.mem_cons.2 hcs)
    rcases hp : e.passes? pid c with _ | v
    · have hkept := (verdict?_of_not_passes? h (Ne.symm hc) hp).trans hv
      rw [passed, hp]
      exact ih (sound_after h c) hcs hkept
    · obtain ⟨-, hnow⟩ := verdict?_of_passes? h hp
      obtain ⟨hnone, hstays⟩ := passed_of_verdict? (sound_after h c) hcs hnow
      rw [passed, hp, hnone]
      exact ⟨Nat.le_refl 1, hstays⟩

end Engine

/-! ## Counters -/

namespace CounterSet

/-- The counters in which placing a task that wakes up may count. -/
def placing : CounterSet := fun k => placement k || k == .directDispatched

/-- None of the counters of classification is in the set. -/
def Apart (p : CounterSet) : Prop := ∀ k, classification k = true → p k = false

lemma apart_placing : placing.Apart := by
  intro k hk
  cases k <;> first | rfl | cases hk

lemma apart_attention : attention.Apart := by
  intro k hk
  cases k <;> first | rfl | cases hk

lemma apart_accounting : accounting.Apart := by
  intro k hk
  cases k <;> first | rfl | cases hk

lemma apart_nothing : nothing.Apart := fun _ _ => rfl

end CounterSet

namespace Counters

/-- Two states of the counters agree in the counters of classification. -/
def SameVerdicts (c d : Counters) : Prop :=
  ∀ k, CounterSet.classification k = true → d.get k = c.get k

namespace SameVerdicts

variable {c d d' : Counters}

lemma refl (c : Counters) : SameVerdicts c c := fun _ _ => rfl

lemma trans (h : SameVerdicts c d) (h' : SameVerdicts d d') : SameVerdicts c d' :=
  fun k hk => (h' k hk).trans (h k hk)

lemma of_sameBut {p : CounterSet} (h : SameBut p c d) (hp : p.Apart) : SameVerdicts c d :=
  fun k hk => h k (hp k hk)

lemma bump (c : Counters) {j : Counter} (hj : CounterSet.classification j = false) :
    SameVerdicts c (c.bump j) := by
  intro k hk
  refine Counters.get_bump_of_ne c ?_
  rintro rfl
  rw [hj] at hk
  cases hk

end SameVerdicts

end Counters

namespace Engine

variable {e : Engine} {c : EngineCall}

lemma sameBut_settle (e : Engine) (task : Task) (prev : Nat) (found : Option Nat) :
    e.counters.SameBut .placing (e.settle task prev found).2.counters := by
  obtain ⟨_, counted, -, hsettled⟩ := e.exists_settle task prev found
  rw [hsettled]
  exact (Counters.SameBut.refl .placing e.counters).bumpIf rfl counted

/-- Placing a task that was refreshed counts only placements. -/
lemma sameBut_selectCpu {task : Task} {prev : Nat} {s : TaskState}
    (h : e.woken? task prev = some s) :
    (e.toMachine.refresh task s prev).2.counters.SameBut .placing
      (e.selectCpu task prev).2.counters := by
  obtain ⟨host, -, counters, events, hc, hn⟩ := (e.toMachine.refresh task s prev).2.searched_place
    e.strategy task (e.toMachine.refresh task s prev).1 prev
  have hseek : (e.seekCore task s prev).2.counters = counters := by
    rw [seekCore, hn]
  rw [selectCpu_of_woken? h]
  refine Counters.SameBut.trans ?_ (sameBut_settle _ _ _ _)
  show Counters.SameBut _ _ (e.seekCore task s prev).2.counters
  rw [hseek]
  exact hc.mono fun k hk => by simp [CounterSet.placing, hk]

/-- A call that classifies a task counts in the counters of classification what the sources say of
it. -/
lemma counters_of_classifies? {task : Task} (h : e.classifies? c = some task) :
    (e.classifyAnew task).2.counters.SameVerdicts (e.after c).counters := by
  obtain ⟨prev, s, rfl, hs, hunclassified⟩ := classifies?_eq_some h
  rw [← e.toMachine.counters_refresh_of_unclassified task hunclassified prev]
  exact .of_sameBut (sameBut_selectCpu hs) CounterSet.apart_placing

/-- A call that classifies no task counts nothing in the counters of classification. -/
lemma counters_of_not_classifies? (h : e.classifies? c = none) :
    e.counters.SameVerdicts (e.after c).counters := by
  cases c with
  | selectCpu task prev =>
    rcases hs : e.woken? task prev with _ | s
    · rw [after, selectCpu_of_not_woken? hs]
      exact .refl _
    · have hclassified : s.flags.classified = true := by
        by_contra hno
        simp [classifies?, hs, hno] at h
      rw [← e.toMachine.counters_refresh_of_classified task hclassified prev]
      exact .of_sameBut (sameBut_selectCpu hs) CounterSet.apart_placing
  | enqueue task =>
    obtain ⟨_, _, ho⟩ := e.outcome_enqueue task
    exact (Counters.SameVerdicts.bump _ rfl).trans
      (.of_sameBut ho.counters_sameBut CounterSet.apart_attention)
  | dispatch cpu =>
    rcases hp : e.queues.popFirst? (drainOrder e.topology cpu) with _ | ⟨w, queues⟩
    · exact .of_sameBut (e.outcome_dispatch_none hp).2.counters_sameBut CounterSet.apart_nothing
    · exact (Counters.SameVerdicts.bump _ rfl).trans
        (.of_sameBut (e.outcome_dispatch_some hp).2.counters_sameBut CounterSet.apart_nothing)
  | running task =>
    exact .of_sameBut (e.outcome_running task).counters_sameBut CounterSet.apart_accounting
  | stopping task runnable =>
    exact .of_sameBut (e.outcome_stopping task runnable).counters_sameBut
      CounterSet.apart_accounting
  | tick cpu => exact .of_sameBut (e.outcome_tick cpu).counters_sameBut CounterSet.apart_accounting
  | taskExit pid =>
    exact .of_sameBut (e.outcome_taskExit pid).counters_sameBut CounterSet.apart_nothing
  | noteProfileMatch | exit | readEvents | settings | knowledge | platform => exact .refl _

/-! ## Runs -/

lemma detected_of_classifies? {task : Task} (h : e.classifies? c = some task) :
    e.detected c =
      if (e.judgement task).1.gaming then [e.gamingDetected task (e.judgement task).1] else [] := by
  obtain ⟨prev, s, rfl, hs, hunclassified⟩ := classifies?_eq_some h
  rw [detected, hs]
  exact if_neg (by rw [hunclassified]; exact Bool.false_ne_true)

lemma detected_of_not_classifies? (h : e.classifies? c = none) : e.detected c = [] := by
  cases c with
  | selectCpu task prev =>
    rcases hs : e.woken? task prev with _ | s
    · rw [detected, hs]
    · have hclassified : s.flags.classified = true := by
        by_contra hno
        simp [classifies?, hs, hno] at h
      rw [detected, hs]
      exact if_pos hclassified
  | _ => rfl

/-- A task without verdict that wakes up on a core that exists is classified, if there is room for
it in the table. -/
lemma classifies?_of_no_verdict (h : e.tasks.Sound) {task : Task} {prev : Nat}
    (hv : e.verdict? task.pid = none) (hprev : (e.topology.core? prev).isSome)
    (htracked : ((e.after (.selectCpu task prev)).task? task.pid).isSome) :
    e.classifies? (.selectCpu task prev) = some task := by
  rcases hs : e.woken? task prev with _ | s
  · rw [after, task?_selectCpu_of_not_woken? hs hprev] at htracked
    cases htracked
  · have hunclassified : s.flags.classified = false := by
      rw [verdict?_of_woken? h hs] at hv
      by_contra hno
      rw [Bool.not_eq_false] at hno
      simp [Findings.verdict?, TaskState.findings, hno] at hv
    rw [classifies?, hs]
    exact if_neg (by rw [hunclassified]; exact Bool.false_ne_true)

/-- A task is classified once.  From the start of an engine on, whatever happens to it and in
whatever order, a call that classifies no task leaves the counters of classification alone and does
not report that a task is gaming; a call that classifies a task counts there exactly what the sources
say, and reports that the task is gaming if they say so, once.  While a task that was not tracked
stays, at most one such call classifies it, and its flags, its class and the time are from then on
those of that call.  A task that is gone is not tracked, and a task without verdict that wakes up is
classified afresh. -/
theorem classified_once (t : Topology) (config : EngineConfig) (tunables : TunablesCell)
    (hints : Hints) (host : Host) :
    ∃ e₀, start t config tunables hints host = .ok e₀ ∧
      ∀ calls e, e₀.afterAll calls = e →
        (∀ c, e.classifies? c = none →
          (∀ k, CounterSet.classification k = true →
            (e.after c).counters.get k = e.counters.get k) ∧
          ∃ rs, e.Reports c rs ∧ rs.filter (·.kind == .gamingDetected) = []) ∧
        (∀ c task, e.classifies? c = some task →
          (∀ k, CounterSet.classification k = true →
            (e.after c).counters.get k = (e.classifyAnew task).2.counters.get k) ∧
          ∃ rs, e.Reports c rs ∧
            rs.filter (·.kind == .gamingDetected) =
              if (e.judgement task).1.gaming then [e.gamingDetected task (e.judgement task).1]
              else []) ∧
        (∀ pid cs, e.task? pid = none → .taskExit pid ∉ cs →
          (e.passed pid cs).length ≤ 1 ∧
            (e.afterAll cs).verdict? pid = (e.passed pid cs).head?) ∧
        (∀ pid, (e.after (.taskExit pid)).task? pid = none) ∧
        ∀ task prev, e.verdict? task.pid = none → (t.core? prev).isSome →
          ((e.after (.selectCpu task prev)).task? task.pid).isSome →
            e.classifies? (.selectCpu task prev) = some task := by
  obtain ⟨queues, -, hstart⟩ := exists_start t config tunables hints host
  refine ⟨_, hstart, fun calls e he => ?_⟩
  have h := (Consistent.start t config tunables hints host queues).afterAll calls
  rw [he] at h
  refine ⟨fun c hc => ⟨counters_of_not_classifies? hc, ?_⟩,
    fun c task hc => ⟨counters_of_classifies? hc, ?_⟩, fun pid cs hnone hcs => ?_, fun pid => ?_,
    fun task prev hv hprev => ?_⟩
  · rw [← detected_of_not_classifies? hc]
    exact e.reports_after c
  · rw [← detected_of_classifies? hc]
    exact e.reports_after c
  · refine passed_of_no_verdict? h.sound hcs ?_
    rw [verdict?, findings?, hnone]
    rfl
  · rw [task?, after, (e.result_taskExit pid).tasks_eq]
    exact h.sound.get?_remove_self pid
  · exact classifies?_of_no_verdict h.sound hv (h.topology.symm ▸ hprev)

/-- A game. -/
def openGame : Task := { pid := 5, tgid := 5, name := .ofString "wine64", allowed := .firstN 2 }

/-- A game wakes up, is taken for something else by a hint and by its new name, and wakes up
again. -/
def disguisedGame : List EngineCall :=
  [.selectCpu openGame 0, .knowledge { containers := .ofEntries [(5, .ai)] },
    .selectCpu renamedGame 1]

theorem classified_once_disguisedGame :
    (∃ rs, onTwoDomains.Reports (.selectCpu openGame 0) rs ∧
      (rs.filter (·.kind == .gamingDetected)).length = 1) ∧
    onTwoDomains.passed 5 disguisedGame = [(.ofHit .translated false, 0)] ∧
    (onTwoDomains.afterAll disguisedGame).verdict? 5 = some (.ofHit .translated false, 0) ∧
    (onTwoDomains.afterAll (disguisedGame ++ [.taskExit 5])).classifies? (.selectCpu renamedGame 0) =
      some renamedGame := by
  obtain ⟨e₀, hstart, h⟩ := classified_once .twoDomains { taskCapacity := 0 } none {}
    (.ofTopology .twoDomains)
  obtain rfl : onTwoDomains = e₀ := Except.ok.inj (start_twoDomains.symm.trans hstart)
  obtain ⟨-, hreports, honce, -, -⟩ := h [] _ rfl
  obtain ⟨-, -, -, -, hafresh⟩ := h (disguisedGame ++ [.taskExit 5]) _ rfl
  obtain ⟨-, rs, hrs, hfilter⟩ := hreports (.selectCpu openGame 0) openGame (by decide +kernel)
  obtain ⟨-, hverdict⟩ := honce 5 disguisedGame (by decide +kernel) (by simp [disguisedGame])
  have hgaming : (onTwoDomains.judgement openGame).1.gaming = true := by decide +kernel
  have hpassed : onTwoDomains.passed 5 disguisedGame = [(.ofHit .translated false, 0)] := by
    decide +kernel
  refine ⟨⟨rs, hrs, ?_⟩, hpassed, ?_, ?_⟩
  · rw [hfilter]
    exact congrArg List.length (if_pos hgaming)
  · exact hverdict.trans (congrArg List.head? hpassed)
  · exact hafresh renamedGame 0 (by decide +kernel) (by decide) (by decide +kernel)

end Engine

end CoreSteer
