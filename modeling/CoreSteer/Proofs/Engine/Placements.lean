import CoreSteer.Proofs.Engine.Calls
/-!
# Idle cores are handed out once

A task that wakes up is put straight on a core only if the core was idle, and then the core is not
idle any more.  No other call touches the idle cores or puts a task on a core.  So a core on which a
task was put gets another one only after the platform said that it is idle again.

The platform says for each core how many of the next claims are lost, and it may say something else
before each call.  Since a search ends with the first claim that is not lost, any claims may be lost.
-/
namespace CoreSteer

namespace Engine

/-- The placements that a call asks the platform for. -/
def putBy (e : Engine) : EngineCall → List Placement
  | .selectCpu task prev =>
    (e.selectCpu task prev).2.host.placements.toList.drop e.host.placements.size
  | _ => []

/-- The placements that calls in order ask the platform for. -/
def putByAll (e : Engine) : List EngineCall → List Placement
  | [] => []
  | c :: cs => e.putBy c ++ (e.after c).putByAll cs

/-! ## Waking up -/

/-- A task that wakes up is put on one core or on none.  A core on which it is put is the answer;
the task may run there, and this core was idle and is the only one that is not idle any more. -/
lemma selectCpu_takes (e : Engine) (task : Task) (prev : Nat) :
    (e.putBy (.selectCpu task prev) = [] ∧ (e.selectCpu task prev).1 = prev ∧
      (e.selectCpu task prev).2.host.idle = e.host.idle ∧
      (e.selectCpu task prev).2.counters.get .directDispatched =
        e.counters.get .directDispatched) ∨
    ∃ cpu, e.putBy (.selectCpu task prev) = [⟨task.pid, cpu, e.tunables.load.slice⟩] ∧
      (e.selectCpu task prev).1 = cpu ∧ cpu ∈ task.allowed ∧ cpu ∈ e.host.idle ∧
      (e.selectCpu task prev).2.host.idle = e.host.idle.clear cpu ∧
      (e.selectCpu task prev).2.counters.get .directDispatched =
        wrap64 (e.counters.get .directDispatched + 1) := by
  obtain ⟨found, host, tasks, hanswer, ⟨lost, hfound⟩, -, h⟩ := e.result_selectCpu task prev
  have ho := h.outcome
  have hcounted := ho.counters_sameBut .directDispatched rfl
  cases found with
  | none =>
    obtain rfl := hfound
    refine .inl ⟨?_, hanswer, ?_, hcounted⟩
    · simp [putBy, ho.host_eq, placed]
    · rw [ho.host_eq, placed]
  | some cpu =>
    obtain ⟨hidle, hallowed, rfl⟩ := hfound
    refine .inr ⟨cpu, ?_, hanswer, hallowed, hidle, congrArg Host.idle ho.host_eq, ?_⟩
    · simp [putBy, ho.host_eq, placed, Host.place]
    · exact hcounted.trans (Counters.get_bump_self _ _)

lemma placements_selectCpu (e : Engine) (task : Task) (prev : Nat) :
    (e.selectCpu task prev).2.host.placements.toList =
      e.host.placements.toList ++ e.putBy (.selectCpu task prev) := by
  obtain ⟨found, host, -, ⟨lost, hfound⟩, ho⟩ := e.outcome_selectCpu task prev
  cases found with
  | none =>
    obtain rfl := hfound
    simp [putBy, ho.host_eq, placed]
  | some cpu =>
    obtain ⟨-, -, rfl⟩ := hfound
    simp [putBy, ho.host_eq, placed, Host.place]

/-! ## All other calls -/

/-- Nothing is different about idle cores and placements. -/
structure SameCores (e e' : Engine) : Prop where
  /-- The same cores are idle. -/
  idle : e'.host.idle = e.host.idle
  /-- The same placements were asked for. -/
  placements : e'.host.placements = e.host.placements
  /-- As many of them were counted. -/
  counted : e'.counters.get .directDispatched = e.counters.get .directDispatched

lemma SameCores.of_outcome {p : CounterSet} {e e' : Engine} {host : Host}
    {queues : DispatchQueues} (h : Outcome p e host queues e') (hidle : host.idle = e.host.idle)
    (hplacements : host.placements = e.host.placements) (hp : p .directDispatched = false) :
    SameCores e e' where
  idle := (congrArg Host.idle h.host_eq).trans hidle
  placements := (congrArg Host.placements h.host_eq).trans hplacements
  counted := h.counters_sameBut _ hp

/-- Only a task that wakes up takes a core, and only the platform gives cores back. -/
lemma sameCores_after (e : Engine) {c : EngineCall}
    (hs : ∀ task prev, c ≠ .selectCpu task prev) (hp : ∀ host, c ≠ .platform host) :
    SameCores e (e.after c) := by
  cases c with
  | selectCpu task prev => exact absurd rfl (hs task prev)
  | platform host => exact absurd rfl (hp host)
  | enqueue task =>
    obtain ⟨_, kicks, ho⟩ := e.outcome_enqueue task
    have h : SameCores (e.onMachine (·.bump .enqueued)) (e.enqueue task) :=
      .of_outcome ho rfl rfl rfl
    exact ⟨h.idle, h.placements, h.counted.trans (Counters.get_bump_of_ne _ (by decide))⟩
  | dispatch cpu =>
    rcases hpop : e.queues.popFirst? (drainOrder e.topology cpu) with _ | ⟨w, queues⟩
    · exact .of_outcome (e.outcome_dispatch_none hpop).2 rfl rfl rfl
    · have h : SameCores (e.onMachine (·.bump .dispatched)) (e.dispatch cpu).2 :=
        .of_outcome (e.outcome_dispatch_some hpop).2 rfl rfl rfl
      exact ⟨h.idle, h.placements, h.counted.trans (Counters.get_bump_of_ne _ (by decide))⟩
  | running task => exact .of_outcome (e.outcome_running task) rfl rfl rfl
  | stopping task runnable => exact .of_outcome (e.outcome_stopping task runnable) rfl rfl rfl
  | tick cpu => exact .of_outcome (e.outcome_tick cpu) rfl rfl rfl
  | noteProfileMatch task => exact .of_outcome (e.outcome_noteProfileMatch task) rfl rfl rfl
  | taskExit pid => exact .of_outcome (e.outcome_taskExit pid) rfl rfl rfl
  | exit | readEvents | settings | knowledge => exact ⟨rfl, rfl, rfl⟩

lemma placements_after (e : Engine) {c : EngineCall} (hp : ∀ host, c ≠ .platform host) :
    (e.after c).host.placements.toList = e.host.placements.toList ++ e.putBy c := by
  cases c with
  | selectCpu task prev => exact e.placements_selectCpu task prev
  | platform host => exact absurd rfl (hp host)
  | _ =>
    rw [(e.sameCores_after (by simp) hp).placements]
    exact (List.append_nil _).symm

lemma directDispatched_after (e : Engine) {n : Nat} (c : EngineCall)
    (h : e.counters.get .directDispatched = wrap64 n) :
    (e.after c).counters.get .directDispatched = wrap64 (n + (e.putBy c).length) := by
  cases c with
  | selectCpu task prev =>
    rcases e.selectCpu_takes task prev with
      ⟨hput, -, -, hcounted⟩ | ⟨cpu, hput, -, -, -, -, hcounted⟩
    · rw [hput]
      exact hcounted.trans h
    · rw [hput]
      refine hcounted.trans ?_
      rw [h, wrap64_wrap64_add]
      rfl
  | platform host => exact h
  | _ =>
    exact (e.sameCores_after (by simp) (by simp)).counted.trans h

lemma directDispatched_afterAll (e : Engine) {n : Nat} (cs : List EngineCall)
    (h : e.counters.get .directDispatched = wrap64 n) :
    (e.afterAll cs).counters.get .directDispatched = wrap64 (n + (e.putByAll cs).length) := by
  induction cs generalizing e n with
  | nil => exact h
  | cons c cs ih =>
    rw [putByAll, List.length_append, ← Nat.add_assoc]
    exact ih (e.after c) (e.directDispatched_after c h)

/-! ## Between two placements -/

/-- No call makes a core idle. -/
lemma idle_of_idle_after (e : Engine) {c : EngineCall} (hp : ∀ host, c ≠ .platform host) {cpu : Nat}
    (h : cpu ∈ (e.after c).host.idle) : cpu ∈ e.host.idle := by
  cases c with
  | selectCpu task prev =>
    have h : cpu ∈ (e.selectCpu task prev).2.host.idle := h
    rcases e.selectCpu_takes task prev with ⟨-, -, hidle, -⟩ | ⟨found, -, -, -, -, hidle, -⟩
    · exact hidle ▸ h
    · rw [hidle] at h
      exact (CpuMask.mem_clear.1 h).1
  | platform host => exact absurd rfl (hp host)
  | _ => exact (e.sameCores_after (by simp) hp).idle ▸ h

/-- A core that becomes idle was made idle by the platform. -/
lemma exists_platform_of_idle (e : Engine) {cpu : Nat} (hbusy : cpu ∉ e.host.idle)
    (cs : List EngineCall) (hidle : cpu ∈ (e.afterAll cs).host.idle) :
    ∃ as host bs, cs = as ++ .platform host :: bs ∧ cpu ∉ (e.afterAll as).host.idle ∧
      cpu ∈ host.idle := by
  induction cs generalizing e with
  | nil => exact absurd hidle hbusy
  | cons c cs ih =>
    by_cases hc : cpu ∈ (e.after c).host.idle
    · cases c with
      | platform host => exact ⟨[], host, cs, rfl, hbusy, hc⟩
      | _ => exact absurd (e.idle_of_idle_after (by simp) hc) hbusy
    · obtain ⟨as, host, bs, rfl, hbefore, hhost⟩ := ih (e.after c) hc hidle
      exact ⟨c :: as, host, bs, rfl, hbefore, hhost⟩

/-- A call that puts a task on a core takes a core that was idle. -/
lemma idle_of_mem_putBy {e : Engine} {c : EngineCall} {p : Placement} (h : p ∈ e.putBy c) :
    p.cpu ∈ e.host.idle ∧ p.cpu ∉ (e.after c).host.idle := by
  cases c with
  | selectCpu task prev =>
    rcases e.selectCpu_takes task prev with ⟨hput, -⟩ | ⟨cpu, hput, -, -, hidle, hafter, -⟩
    · rw [hput] at h
      cases h
    · rw [hput, List.mem_singleton] at h
      subst h
      refine ⟨hidle, fun hmem => ?_⟩
      have hmem : cpu ∈ (e.selectCpu task prev).2.host.idle := hmem
      rw [hafter] at hmem
      exact (CpuMask.mem_clear.1 hmem).2 rfl
  | _ => cases h

/-- If tasks are put on the same core twice, the platform made that core idle in between. -/
lemma exists_platform_between (e : Engine) {as bs : List EngineCall} {c c' : EngineCall}
    {p p' : Placement} (hp : p ∈ (e.afterAll as).putBy c)
    (hp' : p' ∈ (e.afterAll (as ++ c :: bs)).putBy c') (hsame : p'.cpu = p.cpu) :
    ∃ bs₁ host bs₂, bs = bs₁ ++ .platform host :: bs₂ ∧
      p.cpu ∉ (e.afterAll (as ++ c :: bs₁)).host.idle ∧ p.cpu ∈ host.idle := by
  -- the core is not idle after the first placement, and idle before the second one
  have hbusy := (idle_of_mem_putBy hp).2
  have hidle := (idle_of_mem_putBy hp').1
  rw [hsame, afterAll_append] at hidle
  obtain ⟨bs₁, host, bs₂, hbs, hbefore, hhost⟩ := exists_platform_of_idle _ hbusy bs hidle
  refine ⟨bs₁, host, bs₂, hbs, ?_, hhost⟩
  rw [afterAll_append]
  exact hbefore

/-! ## Runs -/

/-- Each idle core is handed out once.  Whatever happens to an engine from its start on, in any
order and whatever claims are lost, a task that wakes up is put on one core or on none.  If it is
put on a core, that core is the answer, the task may run there, and it was idle and is the only one
that is not idle any more; otherwise the idle cores stay as they are and the answer is the previous
core.  No other call puts a task on a core.  If tasks are put on the same core twice, the platform
made that core idle in between.  The placements are counted. -/
theorem idle_cores_handed_out_once (t : Topology) (config : EngineConfig) (tunables : TunablesCell)
    (hints : Hints) (host : Host) :
    ∃ e₀, start t config tunables hints host = .ok e₀ ∧
      (∀ calls e, e₀.afterAll calls = e →
        (∀ task prev cpu e', e.selectCpu task prev = (cpu, e') →
          (e.putBy (.selectCpu task prev) = [] ∧ cpu = prev ∧ e'.host.idle = e.host.idle) ∨
          (e.putBy (.selectCpu task prev) = [⟨task.pid, cpu, e.tunables.load.slice⟩] ∧
            cpu ∈ task.allowed ∧ cpu ∈ e.host.idle ∧
            ∀ other, other ∈ e'.host.idle ↔ other ∈ e.host.idle ∧ other ≠ cpu)) ∧
        (∀ c, (∀ host, c ≠ .platform host) →
          (e.after c).host.placements.toList = e.host.placements.toList ++ e.putBy c) ∧
        e.counters.get .directDispatched = wrap64 (e₀.putByAll calls).length) ∧
      ∀ as c bs c' p p', p ∈ (e₀.afterAll as).putBy c →
        p' ∈ (e₀.afterAll (as ++ c :: bs)).putBy c' → p'.cpu = p.cpu →
        ∃ bs₁ host bs₂, bs = bs₁ ++ .platform host :: bs₂ ∧
          p.cpu ∉ (e₀.afterAll (as ++ c :: bs₁)).host.idle ∧ p.cpu ∈ host.idle := by
  obtain ⟨queues, -, hstart⟩ := exists_start t config tunables hints host
  refine ⟨_, hstart, fun calls e he => ⟨fun task prev cpu e' hs => ?_,
    fun c hp => e.placements_after hp, ?_⟩, fun as c bs c' p p' => exists_platform_between _⟩
  · have htakes := e.selectCpu_takes task prev
    rw [hs] at htakes
    rcases htakes with ⟨hput, hcpu, hidle, -⟩ | ⟨_, hput, rfl, hallowed, hidle, hafter, -⟩
    · exact .inl ⟨hput, hcpu, hidle⟩
    · refine .inr ⟨hput, hallowed, hidle, fun other => ?_⟩
      rw [hafter]
      exact CpuMask.mem_clear
  · rw [← he, directDispatched_afterAll _ calls (n := 0) (Ledger.get_zero _), Nat.zero_add]

/-- A task that renders. -/
def renderer : Task := { pid := 1, tgid := 1, name := .ofString "render", allowed := .firstN 2 }

/-- The renderer wakes up twice and is put on the first core each time.  At first the claim of that
core is lost, and the platform chooses it all the same; then the platform makes it idle again. -/
def repeatedCalls : List EngineCall :=
  let host : Host := .ofTopology .twoDomains
  [.platform { host with lost := host.lost.insert 0 1 }, .selectCpu renderer 0, .enqueue renderer,
    .platform (host.setIdle 1 false), .selectCpu renderer 0]

theorem idle_cores_handed_out_once_repeatedCalls :
    ∃ e e', onTwoDomains.afterAll (repeatedCalls.take 1) = e ∧ e.selectCpu renderer 0 = (0, e') ∧
      e.putBy (.selectCpu renderer 0) = [⟨1, 0, 3000000⟩] ∧ 0 ∈ e.host.idle ∧
      (∀ other, other ∈ e'.host.idle ↔ other ∈ e.host.idle ∧ other ≠ 0) ∧
      e'.host.placements.toList = e.host.placements.toList ++ [⟨1, 0, 3000000⟩] ∧
      (∃ bs₁ host bs₂, (repeatedCalls.drop 2).take 2 = bs₁ ++ .platform host :: bs₂ ∧
        0 ∉ (onTwoDomains.afterAll (repeatedCalls.take 2 ++ bs₁)).host.idle ∧ 0 ∈ host.idle) ∧
      (onTwoDomains.afterAll repeatedCalls).counters.get .directDispatched =
        wrap64 (onTwoDomains.putByAll repeatedCalls).length := by
  obtain ⟨e₀, hstart, hcalls, hbetween⟩ := idle_cores_handed_out_once .twoDomains
    { taskCapacity := 0 } none {} (.ofTopology .twoDomains)
  obtain rfl : onTwoDomains = e₀ := Except.ok.inj (start_twoDomains.symm.trans hstart)
  have hfirst : (onTwoDomains.afterAll (repeatedCalls.take 1)).putBy (.selectCpu renderer 0) =
      [⟨1, 0, 3000000⟩] := by
    decide +kernel
  have hsecond : (onTwoDomains.afterAll (repeatedCalls.take 4)).putBy (.selectCpu renderer 0) =
      [⟨1, 0, 3000000⟩] := by
    decide +kernel
  -- both times the renderer is put on the first core
  have hmem : ⟨1, 0, 3000000⟩ ∈ (onTwoDomains.afterAll (repeatedCalls.take 1)).putBy
      (.selectCpu renderer 0) := by
    rw [hfirst]
    exact List.mem_cons_self
  have hmem' : ⟨1, 0, 3000000⟩ ∈ (onTwoDomains.afterAll (repeatedCalls.take 4)).putBy
      (.selectCpu renderer 0) := by
    rw [hsecond]
    exact List.mem_cons_self
  have hsplit : repeatedCalls.take 4 =
      repeatedCalls.take 1 ++ .selectCpu renderer 0 :: (repeatedCalls.drop 2).take 2 := rfl
  rw [hsplit] at hmem'
  obtain ⟨hselect, hafter, -⟩ := hcalls (repeatedCalls.take 1) _ rfl
  rcases hs : (onTwoDomains.afterAll (repeatedCalls.take 1)).selectCpu renderer 0 with ⟨cpu, e'⟩
  have hplacements := hafter (.selectCpu renderer 0) (by simp)
  rw [hfirst] at hplacements
  rcases hselect renderer 0 cpu e' hs with ⟨hnone, -⟩ | ⟨hput, -, hidle, hothers⟩
  · rw [hfirst] at hnone
    cases hnone
  · rw [hfirst] at hput
    obtain rfl : 0 = cpu := congrArg Placement.cpu (List.singleton_inj.1 hput)
    refine ⟨_, e', rfl, hs, hfirst, hidle, hothers, ?_, ?_, (hcalls repeatedCalls _ rfl).2.2⟩
    · exact (congrArg (fun r => r.2.host.placements.toList) hs).symm.trans hplacements
    · exact hbetween _ _ _ _ _ _ hmem hmem' rfl

end Engine

end CoreSteer
