import CoreSteer.Proofs.Engine.Calls
import CoreSteer.Simulation.Run
import Mathlib.Tactic.Lemma
/-!
# What the parts of a step come to

Each function that a step is made of comes to one of a few things, and for each of them one lemma
says which, together with what is known when it comes to that.  Whatever is proved about steps starts
from these lemmas.  What they do not tell of is how a core takes up work (`pull`) and how a thread
that wakes up finds its core (`settle`); that depends on what the engine answers.
-/
namespace CoreSteer

/-- A thread after it ran for a while. -/
def Thread.ranFor (t : Thread) (length : Nat) : Thread :=
  { t with remaining := t.remaining - length }

namespace Simulation

variable {ρ : Type} {s : Simulation ρ} {pid cpu : Nat} {t : Thread}

/-! ## Threads and cores -/

@[simp] lemma threads_putThread (s : Simulation ρ) (pid p : Nat) (t : Thread) :
    (s.putThread pid t).threads[p]? = if p = pid then some t else s.threads[p]? := by
  by_cases hp : p = pid
  · simp [putThread, hp]
  · have hne : compare pid p ≠ .eq := fun h => hp (Nat.compare_eq_eq.1 h).symm
    rw [if_neg hp]
    exact Std.ExtTreeMap.getElem?_insert.trans (if_neg hne)

lemma threads_putThread_self (s : Simulation ρ) (pid : Nat) (t : Thread) :
    (s.putThread pid t).threads[pid]? = some t := by
  rw [threads_putThread, if_pos rfl]

lemma threads_erase (s : Simulation ρ) (pid p : Nat) :
    (s.threads.erase pid)[p]? = if p = pid then none else s.threads[p]? := by
  by_cases hp : p = pid
  · simp [hp]
  · have hne : compare pid p ≠ .eq := fun h => hp (Nat.compare_eq_eq.1 h).symm
    rw [if_neg hp]
    exact Std.ExtTreeMap.getElem?_erase.trans (if_neg hne)

lemma mem_threads_of_eq_some (h : s.threads[pid]? = some t) : pid ∈ s.threads :=
  Std.ExtTreeMap.mem_iff_isSome_getElem?.2 (by rw [h]; rfl)

lemma mem_threads_putThread (s : Simulation ρ) (pid p : Nat) (t : Thread) :
    p ∈ (s.putThread pid t).threads ↔ p = pid ∨ p ∈ s.threads := by
  refine Std.ExtTreeMap.mem_insert.trans (or_congr_left ?_)
  exact Nat.compare_eq_eq.trans eq_comm

/-- Writing the state of a thread gives nobody the next id. -/
lemma nextPid_not_mem_putThread (hnew : s.nextPid ∉ s.threads) (hmem : pid ∈ s.threads)
    (t : Thread) : s.nextPid ∉ (s.putThread pid t).threads := by
  intro hin
  rcases (mem_threads_putThread s pid s.nextPid t).1 hin with heq | hin
  · exact hnew (heq ▸ hmem)
  · exact hnew hin

lemma mem_threads_erase (s : Simulation ρ) (pid p : Nat) :
    p ∈ s.threads.erase pid ↔ p ≠ pid ∧ p ∈ s.threads := by
  refine Std.ExtTreeMap.mem_erase.trans (and_congr_left fun _ => ?_)
  exact not_congr (Nat.compare_eq_eq.trans eq_comm)

@[simp] lemma cores_modifyCore (s : Simulation ρ) (cpu j : Nat) (f : SimCore → SimCore) :
    (s.modifyCore cpu f).cores[j]? = if j = cpu then s.cores[j]?.map f else s.cores[j]? := by
  simp [modifyCore, Array.getElem?_modify, eq_comm]

lemma isFree_iff : s.isFree cpu = true ↔ ∃ c : SimCore, s.cores[cpu]? = some c ∧ c.run = none := by
  simp [isFree, Option.any_eq_true]

/-- What a core runs, and the generation of that run. -/
def runOn? (s : Simulation ρ) (cpu : Nat) : Option (Run × Nat) :=
  s.cores[cpu]?.bind fun c => c.run.map fun r => (r, c.generation)

lemma runOn?_eq_some_iff {r : Run} {generation : Nat} :
    s.runOn? cpu = some (r, generation) ↔
      ∃ c : SimCore, s.cores[cpu]? = some c ∧ c.run = some r ∧ c.generation = generation := by
  simp [runOn?, Option.bind_eq_some_iff, Option.map_eq_some_iff]

/-- A core runs nothing any more. -/
def vacate (s : Simulation ρ) (cpu : Nat) : Simulation ρ :=
  s.modifyCore cpu fun c => { c with run := none }

lemma runOn?_of_isFree (h : s.isFree cpu = true) : s.runOn? cpu = none := by
  obtain ⟨c, hc, hr⟩ := isFree_iff.1 h
  simp [runOn?, hc, hr]

lemma runOn?_startRun (h : s.isFree cpu = true) (r : Run) (generation j : Nat) :
    (s.modifyCore cpu fun c => { c with run := some r, generation := generation }).runOn? j =
      if j = cpu then some (r, generation) else s.runOn? j := by
  obtain ⟨c, hc, -⟩ := isFree_iff.1 h
  rw [runOn?, cores_modifyCore]
  split
  · next hj =>
    rw [hj, hc]
    rfl
  · rfl

lemma runOn?_vacate (s : Simulation ρ) (cpu j : Nat) :
    (s.vacate cpu).runOn? j = if j = cpu then none else s.runOn? j := by
  rw [runOn?, vacate, cores_modifyCore]
  split
  · cases s.cores[j]? <;> rfl
  · rfl

/-! ## Cores take up work -/

lemma askEngine_eq {α : Type} (s : Simulation ρ) (f : Engine → α × Engine) :
    s.askEngine f = ((f s.engine).1, { s with engine := (f s.engine).2 }) := rfl

/-- The generation of the run that a core begins next. -/
def nextGeneration (s : Simulation ρ) (cpu : Nat) : Nat :=
  ((s.cores[cpu]?.map (·.generation)).getD 0) + 1

/-- A thread begins to run: the engine is told, the thread and the core are written, and the end of
the run is put on the agenda. -/
lemma begin_eq (ht : s.threads[pid]? = some t) (cpu slice : Nat) :
    s.begin cpu pid slice =
      (((s.onEngine fun e => (e.onHost (·.setIdle cpu false)).running
            { t.task with cpu := cpu }).putThread pid
          { t with task := { t.task with cpu := cpu }, phase := .running }).modifyCore cpu fun c =>
        { c with run := some ⟨pid, s.now⟩, generation := s.nextGeneration cpu }).schedule
          (s.later (min t.remaining (max slice 1))) (.stop cpu (s.nextGeneration cpu)) := by
  unfold begin
  simp only [ht]
  rfl

lemma begin_eq_self (h : s.threads[pid]? = none) (cpu slice : Nat) : s.begin cpu pid slice = s := by
  unfold begin
  simp only [h]

/-- The next thread for a core is the first one that was put straight on it, or it comes from the
dispatch queues. -/
lemma nextFor_cases (s : Simulation ρ) (cpu : Nat) :
    (∃ next rest, (s.cores[cpu]?.map (·.direct)).getD [] = next :: rest ∧
      s.nextFor cpu = (some next, s.modifyCore cpu fun c => { c with direct := rest })) ∨
    (s.cores[cpu]?.map (·.direct)).getD [] = [] ∧
      s.nextFor cpu = ((s.engine.dispatch cpu).1.map fun w => (w.pid, w.slice),
        { s with engine := s.engine.after (.dispatch cpu) }) := by
  unfold nextFor
  split
  · next next rest hdirect => exact .inl ⟨next, rest, hdirect, rfl⟩
  · next hdirect => exact .inr ⟨hdirect, rfl⟩

/-- Some idle core on which a task may run takes up work, unless there is none. -/
lemma rouse_cases (s : Simulation ρ) (task : Task) :
    (∃ cpu ∈ s.engine.host.idle, cpu ∈ task.allowed ∧ s.isFree cpu = true ∧
      s.rouse task = (s.onEngine (·.onHost fun h => (h.take cpu).2)).takeUp cpu) ∨
    (∀ cpu ∈ s.engine.host.idle, cpu ∈ task.allowed → ¬ s.isFree cpu = true) ∧
      s.rouse task = s := by
  unfold rouse
  split
  · next cpu hcpu =>
    have hmem := CpuMask.mem_toList.1 (List.mem_of_find?_eq_some hcpu)
    obtain ⟨hidle, hallowed⟩ := CpuMask.mem_inter.1 hmem
    exact .inl ⟨cpu, hidle, hallowed, List.find?_some hcpu, rfl⟩
  · next hnone =>
    refine .inr ⟨fun cpu hidle hallowed => ?_, rfl⟩
    exact List.find?_eq_none.1 hnone cpu
      (CpuMask.mem_toList.2 (CpuMask.mem_inter.2 ⟨hidle, hallowed⟩))

/-! ## Threads wake up -/

/-- Profiles are looked up for a thread once, and with that other tunables may come into force. -/
lemma lookUp_cases (s : Simulation ρ) (pid : Nat) :
    (∀ t, s.threads[pid]? = some t → t.seen = true) ∧ s.lookUp pid = s ∨
    ∃ t, s.threads[pid]? = some t ∧
      (s.lookUp pid = s.putThread pid { t with seen := true } ∨
        ∃ shelf tunables, s.lookUp pid =
          { (s.putThread pid { t with seen := true }) with
            shelf := some shelf
            engine := (s.engine.after (.settings tunables)).after (.noteProfileMatch t.task) }) := by
  unfold lookUp
  split
  · next hnone => exact .inl ⟨fun t ht => by simp [hnone] at ht, rfl⟩
  · next t ht =>
    split
    · next hseen =>
      refine .inl ⟨fun u hu => ?_, rfl⟩
      rw [ht] at hu
      exact Option.some.inj hu ▸ hseen
    · refine .inr ⟨t, ht, ?_⟩
      dsimp only
      split
      · exact .inl rfl
      · split
        · exact .inl rfl
        · exact .inr ⟨_, _, rfl⟩

/-- To choose a core is to ask the engine, and to take up what it placed. -/
lemma choose_snd (s : Simulation ρ) (task : Task) :
    (s.choose task).2 =
      { s with
        engine := (s.engine.after (.selectCpu task task.cpu)).after
          (.platform (s.engine.after (.selectCpu task task.cpu)).host.takePlacements.2) } := rfl

variable [Random.DrawSource ρ]

/-- A thread that sleeps draws how long it is to run and settles down to wait; nobody else wakes
up. -/
lemma wake_cases (s : Simulation ρ) (pid : Nat) :
    (∃ t, (s.lookUp pid).threads[pid]? = some t ∧ t.phase = .sleeping ∧
      s.wake pid = { s.lookUp pid with rng := (t.spec.run.draw (s.lookUp pid).rng).2 }.settle pid
        { t with
          remaining := max (t.spec.run.draw (s.lookUp pid).rng).1 1
          phase := .queued }) ∨
    (∀ t, (s.lookUp pid).threads[pid]? = some t → t.phase ≠ .sleeping) ∧
      s.wake pid = s.lookUp pid := by
  unfold wake
  dsimp only
  split
  · next hnone => exact .inr ⟨fun t ht => by simp [hnone] at ht, rfl⟩
  · next t ht =>
    split
    · next hp => exact .inl ⟨t, ht, hp, rfl⟩
    · next hp =>
      refine .inr ⟨fun u hu => ?_, rfl⟩
      rw [ht] at hu
      cases hu
      exact hp

/-! ## Threads come and go -/

/-- A thread comes into being: the platform is told, the thread is written, asleep, and its time to
wake up is put on the agenda. -/
lemma spawn_eq (s : Simulation ρ) (spec : ThreadSpec) :
    ∃ t : Thread, t.spec = spec ∧ t.task.pid = spec.pid ∧
      t.task.allowed = s.engine.topology.allCpus ∧ t.phase = .sleeping ∧ t.remaining = 0 ∧
      s.spawn spec =
        ({ s.onEngine (·.onHost (·.addProcess spec.pid spec.parent spec.name)) with
          rng := (Random.DrawSource.draw64 0 longestDelay s.rng).2 }.putThread spec.pid t).schedule
            (s.later (Random.DrawSource.draw64 0 longestDelay s.rng).1) (.wake spec.pid) :=
  ⟨_, rfl, rfl, rfl, rfl, rfl, rfl⟩

/-- A thread ends: the engine and the platform are told before it is taken away, and its successor
comes into being under the id that the counter gives. -/
lemma replace_eq (s : Simulation ρ) (pid : Nat) (t : Thread) :
    s.replace pid t =
      ({ s with
        engine := (s.engine.taskExit pid).onHost (·.removeProcess pid)
        threads := s.threads.erase pid
        nextPid := wrap32 (s.nextPid + 1) }).spawn (successor t.spec s.nextPid) := rfl

omit [Random.DrawSource ρ] in
/-- The engine is told that a run of a thread is over. -/
def afterRun (s : Simulation ρ) (pid : Nat) (t : Thread) (runnable : Bool) : Simulation ρ :=
  (s.putThread pid t).onEngine (·.stopping t.task runnable)

/-- A thread that is done makes room for its successor, or sleeps. -/
lemma retire_cases (s : Simulation ρ) (pid : Nat) (t : Thread) :
    s.retire pid t = (s.afterRun pid t false).replace pid t ∨
    s.retire pid t =
      ({ s.afterRun pid t false with rng := (t.spec.sleep.draw s.rng).2 }.putThread pid
        { t with phase := .sleeping }).schedule (s.later (t.spec.sleep.draw s.rng).1)
          (.wake pid) := by
  unfold retire
  dsimp only
  split
  · exact .inl rfl
  · exact .inr rfl

omit [Random.DrawSource ρ] in
lemma requeue_eq (s : Simulation ρ) (pid : Nat) (t : Thread) :
    s.requeue pid t = (s.afterRun pid { t with phase := .queued } true).await t.task := rfl

/-! ## Runs end -/

/-- When a run ends its core takes up other work.  Before that the thread of the run waits again if
something is left for it to do, and then some idle core may take up work as well; otherwise it is
done. -/
lemma endRun_cases (s : Simulation ρ) (cpu : Nat) (r : Run) :
    (s.threads[r.pid]? = none ∧ s.endRun cpu r = (s.vacate cpu).takeUp cpu) ∨
    ∃ t, s.threads[r.pid]? = some t ∧
      (0 < (t.ranFor (s.now - r.startedAt)).remaining ∧
        s.endRun cpu r = (((s.vacate cpu).requeue r.pid
          (t.ranFor (s.now - r.startedAt))).takeUp cpu).rouse t.task ∨
      (t.ranFor (s.now - r.startedAt)).remaining = 0 ∧
        s.endRun cpu r =
          ((s.vacate cpu).retire r.pid (t.ranFor (s.now - r.startedAt))).takeUp cpu) := by
  unfold endRun
  dsimp only
  split
  · next hnone => exact .inl ⟨hnone, rfl⟩
  · next t ht =>
    refine .inr ⟨t, ht, ?_⟩
    split
    · next hleft => exact .inl ⟨hleft, rfl⟩
    · next hdone => exact .inr ⟨Nat.eq_zero_of_not_pos hdone, rfl⟩

/-- The end of a run that falls due ends the run if that has not ended before. -/
lemma stop_cases (s : Simulation ρ) (cpu generation : Nat) :
    (∃ r, s.runOn? cpu = some (r, generation) ∧ s.stop cpu generation = s.endRun cpu r) ∨
    (∀ r, s.runOn? cpu ≠ some (r, generation)) ∧ s.stop cpu generation = s := by
  unfold stop
  split
  · next hc => exact .inr ⟨fun r hr => by simp [runOn?, hc] at hr, rfl⟩
  · next c hc =>
    split
    · next hnone => exact .inr ⟨fun r hr => by simp [runOn?, hc, hnone] at hr, rfl⟩
    · next r hr =>
      split
      · next hg => exact .inl ⟨r, runOn?_eq_some_iff.2 ⟨c, hc, hr, hg⟩, rfl⟩
      · next hg =>
        refine .inr ⟨fun q hq => hg ?_, rfl⟩
        obtain ⟨d, hd, -, hgen⟩ := runOn?_eq_some_iff.1 hq
        rw [hc] at hd
        cases hd
        exact hgen

/-! ## Ticks and kicks -/

/-- When the cores tick, one after the other, nothing but the engine and the source of draws
changes; and the next tick is put on the agenda. -/
lemma tick_eq {P : Engine → Prop} (h : P s.engine)
    (hcore : ∀ e cpu level, P e → P ((e.onHost (·.setPerf cpu level)).tick cpu)) :
    ∃ rng e, P e ∧
      s.tick = { s with rng := rng, engine := e }.schedule (s.later tickPeriod) .tick := by
  have hall : ∃ rng e, P e ∧
      (List.range s.cores.size).foldl tickCore s = { s with rng := rng, engine := e } := by
    refine List.foldlRecOn (motive := fun s' : Simulation ρ =>
      ∃ rng e, P e ∧ s' = { s with rng := rng, engine := e }) _ _ ⟨s.rng, s.engine, h, rfl⟩ ?_
    rintro _ ⟨rng, e, he, rfl⟩ cpu -
    exact ⟨_, _, hcore e cpu _ he, rfl⟩
  obtain ⟨rng, e, he, heq⟩ := hall
  exact ⟨rng, e, he, by rw [tick, heq]⟩

omit [Random.DrawSource ρ]

/-- A kick to give way puts the end of the run of its core on the agenda. -/
lemma heed_cases (s : Simulation ρ) (k : Kick) :
    s.heed k = s ∨ ∃ r generation, s.runOn? k.cpu = some (r, generation) ∧
      s.heed k = s.schedule s.now (.stop k.cpu generation) := by
  unfold heed
  split
  · exact .inl rfl
  · next c hc =>
    split
    · next hk =>
      rw [Bool.and_eq_true, Option.isSome_iff_exists] at hk
      obtain ⟨-, r, hr⟩ := hk
      exact .inr ⟨r, c.generation, runOn?_eq_some_iff.2 ⟨c, hc, hr, rfl⟩, rfl⟩
    · exact .inl rfl

/-- What holds once the kicks are taken from the platform, and is kept when one of them is heeded,
holds when all are. -/
lemma heedKicks_rec {motive : Simulation ρ → Prop}
    (h : motive (s.onEngine (·.onHost (·.takeKicks.2))))
    (heed : ∀ s', motive s' → ∀ k ∈ s.engine.host.kicks, motive (s'.heed k)) :
    motive s.heedKicks :=
  List.foldlRecOn _ _ h fun s' hs k hk => heed s' hs k (by
    have hk : k ∈ s.engine.host.takeKicks.1 := hk
    simpa [Host.takeKicks] using hk)

/-! ## Appointments are kept -/

/-- The time of an appointment has come, and it is taken off the agenda. -/
def comeTo (s : Simulation ρ) (a : Appointment) (rest : Agenda) : Simulation ρ :=
  { s with agenda := rest, now := a.due }.onEngine (·.onHost fun h => { h with now := a.due })

variable [Random.DrawSource ρ]

/-- An appointment is kept: its time comes, what it is about happens, and all kicks are heeded. -/
lemma keep_eq (s : Simulation ρ) (a : Appointment) (rest : Agenda) :
    { s with agenda := rest }.keep a =
      { ((s.comeTo a rest).happen a.what).heedKicks with
        processed := ((s.comeTo a rest).happen a.what).heedKicks.processed + 1 } := rfl

lemma step?_eq_some_iff {limit : Nat} {s' : Simulation ρ} :
    s.step? limit = some s' ↔
      ∃ a rest, s.agenda.take? limit = some (a, rest) ∧ { s with agenda := rest }.keep a = s' := by
  unfold step?
  rcases s.agenda.take? limit with _ | ⟨a, rest⟩
  · simp
  · simp

lemma step?_eq_none_iff {limit : Nat} : s.step? limit = none ↔ s.agenda.take? limit = none := by
  unfold step?
  rcases s.agenda.take? limit with _ | ⟨a, rest⟩ <;> simp

end Simulation

end CoreSteer
