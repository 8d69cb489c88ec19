import CoreSteer.Proofs.Dispatch.Drain
import CoreSteer.Proofs.Simulation.Runs
/-!
# Nobody waits while a core is idle

A core counts as idle exactly when it runs nothing, and as long as a core counts as idle nobody
waits.  In the middle of what happens both may be off by a little.  A core whose run has just ended
is *spare* until it takes up work or goes idle, and so is a core that was just taken; and a thread
that comes to wait does so before any core looks for it.  The invariant `Simulation.Steady` has a
place for one spare core, and some slack for threads that wait.

A thread that comes to wait uses up one of the slack, and a core that takes up work gives one back,
whichever queue the thread waits in, because each core looks at all queues.  It does not matter
whether whoever is in the queues still waits: what does not is passed over.  So all this holds
whatever the ids of the threads are, also where the counter that gives them has come round.
-/
namespace CoreSteer.Simulation

variable {ρ : Type} {s : Simulation ρ} {t : Topology} {slack n : Nat} {spare : Option Nat}
  {pid cpu : Nat} {u : Thread}

/-- Every core but for one that may be spare counts as idle if it runs nothing, and as long as a
core counts as idle no more threads wait than there is slack for. -/
structure Steady (t : Topology) (slack : Nat) (spare : Option Nat) (s : Simulation ρ) : Prop
    extends Tended s where
  /-- The engine is one for the machine. -/
  topology : s.engine.topology = t
  /-- The cores are those of the machine. -/
  nrCores : s.cores.size = t.nrCpus
  /-- The dispatch queues are those for the machine. -/
  queues : s.engine.queues.Suits t
  /-- Every thread may run on any core. -/
  allowed : ∀ (pid : Nat) (u : Thread), s.threads[pid]? = some u → u.task.allowed = t.allCpus
  /-- A core that runs nothing counts as idle, or it is the spare one. -/
  idle : ∀ cpu, s.isFree cpu = true → cpu ∈ s.engine.host.idle ∨ spare = some cpu
  /-- As long as a core counts as idle, no more threads wait than there is slack for. -/
  waiting : ∀ cpu ∈ s.engine.host.idle, s.engine.queues.entries.length ≤ slack

namespace Steady

lemma lt_of_isFree (h : s.Steady t slack spare) (hf : s.isFree cpu = true) :
    cpu < t.nrCpus := by
  obtain ⟨c, hc, -⟩ := isFree_iff.1 hf
  rw [← h.nrCores]
  exact (Array.getElem?_eq_some_iff.1 hc).1

lemma mono (h : s.Steady t slack spare) (hle : slack ≤ n) : s.Steady t n spare :=
  { h with waiting := fun cpu hcpu => (h.waiting cpu hcpu).trans hle }

/-! ## Small changes -/

/-- A change of the engine that leaves the topology, the idle cores and the placements alone. -/
lemma withQueues (h : s.Steady t slack spare) {e : Engine}
    (ht : e.topology = s.engine.topology) (hi : e.host.idle = s.engine.host.idle)
    (hp : e.host.placements = s.engine.host.placements) (hq : e.queues.Suits t)
    (hw : s.engine.queues.entries.length ≤ slack → e.queues.entries.length ≤ n) :
    { s with engine := e }.Steady t n spare :=
  { h.toTended.withEngine (fun _ hcpu => hi ▸ hcpu) (hp.trans h.placements), h with
    topology := ht.trans h.topology
    queues := hq
    idle := fun cpu hf => hi ▸ h.idle cpu hf
    waiting := fun cpu hcpu => hw (h.waiting cpu (hi ▸ hcpu)) }

/-- A change of the engine that leaves the queues alone as well. -/
lemma withEngine (h : s.Steady t slack spare) {e : Engine}
    (ht : e.topology = s.engine.topology) (hi : e.host.idle = s.engine.host.idle)
    (hp : e.host.placements = s.engine.host.placements) (hq : e.queues = s.engine.queues) :
    { s with engine := e }.Steady t slack spare :=
  h.withQueues ht hi hp (hq ▸ h.queues) fun hw => hq ▸ hw

/-- A core does not count as idle any more; unless another one was spare, it is the spare one
now. -/
lemma withoutIdle (h : s.Steady t slack spare) (cpu : Nat)
    (hs : ∀ j, spare = some j → j = cpu) {e : Engine} (ht : e.topology = s.engine.topology)
    (hi : ∀ j, j ∈ e.host.idle ↔ j ∈ s.engine.host.idle ∧ j ≠ cpu)
    (hp : e.host.placements = #[]) (hq : e.queues = s.engine.queues) :
    { s with engine := e }.Steady t slack (some cpu) :=
  { h.toTended.withEngine (fun j hj => ((hi j).1 hj).1) hp, h with
    topology := ht.trans h.topology
    queues := hq ▸ h.queues
    idle := fun j hf => by
      by_cases hj : j = cpu
      · exact .inr (congrArg some hj.symm)
      · exact (h.idle j hf).imp (fun hidle => (hi j).2 ⟨hidle, hj⟩) fun he => absurd (hs j he) hj
    waiting := fun j hj => hq ▸ h.waiting j ((hi j).1 hj).1 }

lemma schedule (h : s.Steady t slack spare) (time : Nat) (what : Occurrence) :
    (s.schedule time what).Steady t slack spare :=
  { h with }

lemma putThread (h : s.Steady t slack spare) (pid : Nat) (hu : u.task.allowed = t.allCpus) :
    (s.putThread pid u).Steady t slack spare :=
  { h with
    allowed := fun p v hv => by
      rw [threads_putThread] at hv
      split at hv
      · cases hv
        exact hu
      · exact h.allowed p v hv }

lemma eraseThread (h : s.Steady t slack spare) (pid nextPid : Nat) :
    { s with threads := s.threads.erase pid, nextPid := nextPid }.Steady t slack spare :=
  { h with
    allowed := fun p v hv => by
      have hv := (s.threads_erase pid p).symm.trans hv
      split at hv
      · cases hv
      · exact h.allowed p v hv }

/-- The run of a core ends; from now on the core is spare. -/
lemma vacate (h : s.Steady t slack none) (cpu : Nat) : (s.vacate cpu).Steady t slack (some cpu) :=
  { h.toTended.vacate cpu, h with
    nrCores := Array.size_modify.trans h.nrCores
    idle := fun j hf => by
      by_cases hj : j = cpu
      · exact .inr (congrArg some hj.symm)
      · rw [isFree_iff, Simulation.vacate, cores_modifyCore, if_neg hj, ← isFree_iff] at hf
        exact (h.idle j hf).imp_right (by simp) }

/-- The spare core comes to run something. -/
lemma startRun (h : s.Steady t slack (some cpu)) (hcpu : cpu ∉ s.engine.host.idle) (r : Run)
    (generation : Nat) :
    (s.modifyCore cpu fun c => { c with run := some r, generation := generation }).Steady t slack
      none :=
  { h.toTended.startRun hcpu r generation, h with
    nrCores := Array.size_modify.trans h.nrCores
    idle := fun j hf => by
      rw [isFree_iff, cores_modifyCore] at hf
      split at hf
      · -- this core runs something now
        obtain ⟨c, hc, hnone⟩ := hf
        obtain ⟨d, -, rfl⟩ := Option.map_eq_some_iff.1 hc
        cases hnone
      · next hj =>
        exact (h.idle j (isFree_iff.2 hf)).imp_right fun he => absurd (Option.some.inj he).symm hj }

/-- The spare core goes idle, because nobody waits. -/
lemma rest (h : s.Steady t slack (some cpu)) (hf : s.isFree cpu = true)
    (hnil : s.engine.queues.entries = []) (n : Nat) : (s.rest cpu).Steady t n none := by
  have hcpu : cpu < maxCpus := Nat.lt_of_lt_of_le (h.lt_of_isFree hf) t.nrCpus_le
  refine { h.toTended.rest hf, h with
    idle := fun j hj => .inl (CpuMask.mem_set.2 ?_)
    waiting := fun _ _ => (congrArg List.length hnil).trans_le (Nat.zero_le _) }
  refine (h.idle j hj).imp_right fun he => ?_
  obtain rfl := Option.some.inj he
  exact ⟨hcpu, rfl⟩

/-! ## Cores take up work -/

lemma begin (h : s.Steady t slack (some cpu)) (hu : s.threads[pid]? = some u) (slice : Nat) :
    (s.begin cpu pid slice).Steady t slack none := by
  have ho := (s.engine.onHost (·.setIdle cpu false)).outcome_running { u.task with cpu := cpu }
  have hidle : ∀ j, j ∈ ((s.engine.onHost (·.setIdle cpu false)).running
      { u.task with cpu := cpu }).host.idle ↔ j ∈ s.engine.host.idle ∧ j ≠ cpu := by
    intro j
    rw [ho.host_eq]
    exact CpuMask.mem_clear
  have h₁ := h.withoutIdle cpu (fun j he => (Option.some.inj he).symm) ho.topology_eq hidle
    ((congrArg Host.placements ho.host_eq).trans h.placements) ho.queues_eq
  have h₂ := h₁.putThread pid
    (u := { u with task := { u.task with cpu := cpu }, phase := .running })
    (h.allowed pid u hu)
  rw [begin_eq hu]
  exact (h₂.startRun (fun hcpu => ((hidle cpu).1 hcpu).2 rfl) ⟨pid, s.now⟩ _).schedule _ _

/-- The spare core looks at all queues.  If it finds somebody who still waits, there is need for less
slack afterwards; otherwise the queues are empty in the end. -/
lemma pull (h : s.Steady t slack (some cpu)) (hf : s.isFree cpu = true) {fuel : Nat}
    (hfuel : s.engine.queues.entries.length < fuel) :
    (s.pull cpu fuel).Steady t (slack - 1) none := by
  obtain ⟨core, hcore⟩ : ∃ core, t.core? cpu = some core :=
    ⟨_, Array.getElem?_eq_getElem (h.lt_of_isFree hf)⟩
  induction fuel generalizing s slack with
  | zero => exact absurd hfuel (Nat.not_lt_zero _)
  | succ fuel ih =>
    unfold Simulation.pull
    rw [h.nextFor_eq]
    rcases hpop : s.engine.queues.popFirst? (drainOrder s.engine.topology cpu) with
      _ | ⟨w, queues⟩
    · obtain ⟨hnone, ho⟩ := s.engine.outcome_dispatch_none hpop
      rw [h.topology, h.queues.entries_eq_nil_iff hcore] at hpop
      have h₁ := h.withEngine ho.topology_eq (congrArg Host.idle ho.host_eq)
        (congrArg Host.placements ho.host_eq) ho.queues_eq
      rw [hnone]
      exact h₁.rest hf ((congrArg _ ho.queues_eq).trans hpop) _
    · obtain ⟨hsome, ho⟩ := s.engine.outcome_dispatch_some hpop
      obtain ⟨id, -, hpop⟩ := DispatchQueues.popFirst?_eq_some hpop
      have hlength := (DispatchQueues.entries_of_pop? hpop).length_eq
      rw [List.length_cons] at hlength
      have h₁ := h.withQueues (n := slack - 1) ho.topology_eq (congrArg Host.idle ho.host_eq)
        (congrArg Host.placements ho.host_eq) (ho.queues_eq ▸ h.queues.of_pop? hpop) (by
          rw [ho.queues_eq]
          omega)
      rw [hsome]
      dsimp only [Option.map_some]
      split
      · next hqueued =>
        obtain ⟨v, hv, -⟩ := (Option.any_eq_true _ _).1 hqueued
        exact h₁.begin hv w.slice
      · -- whoever was found does not wait any more
        refine (ih h₁ hf ?_).mono (Nat.sub_le _ _)
        show (s.engine.dispatch cpu).2.queues.entries.length < fuel
        rw [ho.queues_eq]
        omega

/-- The spare core takes up work, so that afterwards there is need for less slack. -/
lemma takeUp (h : s.Steady t slack (some cpu)) (hf : s.isFree cpu = true) :
    (s.takeUp cpu).Steady t (slack - 1) none := by
  unfold Simulation.takeUp
  rw [if_pos hf]
  refine h.pull hf (Nat.lt_succ_of_le ?_)
  exact (DispatchQueues.total_eq h.queues.counted).ge.trans (Nat.le_add_left _ _)

/-- If a core is idle it takes up work, so that afterwards there is need for less slack. -/
lemma rouse (h : s.Steady t slack none) {task : Task} (ha : task.allowed = t.allCpus) :
    (s.rouse task).Steady t (slack - 1) none := by
  rcases s.rouse_cases task with ⟨cpu, hcpu, -, hf, heq⟩ | ⟨hnone, heq⟩
  · have htake : (s.engine.host.take cpu).2 =
        { s.engine.host with idle := s.engine.host.idle.clear cpu } := by
      rw [Host.take, if_pos (show s.engine.host.idle.test cpu = true from hcpu)]
    have hidle : ∀ j, j ∈ (s.engine.host.take cpu).2.idle ↔ j ∈ s.engine.host.idle ∧ j ≠ cpu := by
      intro j
      rw [htake]
      exact CpuMask.mem_clear
    have h₁ := h.withoutIdle cpu (e := s.engine.onHost fun h => (h.take cpu).2) (by simp) rfl hidle
      ((congrArg Host.placements htake).trans h.placements) rfl
    rw [heq]
    exact h₁.takeUp hf
  · -- the thread may run anywhere, so any idle core would have been found
    rw [heq]
    refine { h with waiting := fun cpu hcpu => absurd (h.free cpu hcpu) (hnone cpu hcpu ?_) }
    rw [ha]
    exact CpuMask.mem_firstN.2 ⟨CpuMask.lt_of_mem hcpu, h.lt_of_isFree (h.free cpu hcpu)⟩

/-- A thread that comes to wait uses up some slack. -/
lemma await (h : s.Steady t slack spare) (task : Task) :
    (s.await task).Steady t (slack + 1) spare := by
  obtain ⟨id, kicks, ho⟩ := s.engine.outcome_enqueue task
  refine h.withQueues (e := s.engine.enqueue task) ho.topology_eq
    (congrArg Host.idle ho.host_eq :) (congrArg Host.placements ho.host_eq :)
    (ho.queues_eq ▸ h.queues.insert _ _ _ _) fun hw => ?_
  rw [ho.queues_eq, (DispatchQueues.entries_insert _ _ _ _ _).length_eq]
  exact Nat.succ_le_succ hw

/-! ## Threads wake up -/

lemma lookUp (h : s.Steady t slack spare) (pid : Nat) : (s.lookUp pid).Steady t slack spare := by
  rcases s.lookUp_cases pid with ⟨-, heq⟩ | ⟨u, hu, heq | ⟨shelf, tunables, heq⟩⟩
  · rw [heq]
    exact h
  · rw [heq]
    exact h.putThread pid (u := { u with seen := true }) (h.allowed pid u hu)
  · have h₁ := h.putThread pid (u := { u with seen := true }) (h.allowed pid u hu)
    rw [heq]
    exact { h₁ with }

/-- A thread that is to wait begins to run on an idle core, or there is none. -/
lemma settle (h : s.Steady t 0 none) (pid : Nat) (hp : u.phase = .queued)
    (ha : u.task.allowed = t.allCpus) : (s.settle pid u).Steady t 0 none := by
  obtain ⟨found, e, -, ht, hq, hplaced, hidle, -, heq⟩ := h.settle_cases pid hp
  rw [heq]
  cases found with
  | some cpu =>
    have h₁ := h.withoutIdle cpu (by simp) ht (by simpa [eq_comm] using hidle) hplaced hq
    have h₂ := h₁.putThread pid (u := { u with task := { u.task with cpu := cpu } }) ha
    exact h₂.begin (threads_putThread_self _ _ _) _
  | none =>
    have hsame : e.host.idle = s.engine.host.idle := CpuMask.ext_mem (by simpa using hidle)
    have h₁ := (h.withEngine ht hsame (hplaced.trans h.placements.symm) hq).putThread pid ha
    exact (h₁.await u.task).rouse ha

variable [Random.DrawSource ρ]

lemma wake (h : s.Steady t 0 none) (pid : Nat) : (s.wake pid).Steady t 0 none := by
  have h₁ := h.lookUp pid
  rcases s.wake_cases pid with ⟨u, hu, -, heq⟩ | ⟨-, heq⟩
  · have h₂ : { s.lookUp pid with
        rng := (u.spec.run.draw (s.lookUp pid).rng).2 }.Steady t 0 none := { h₁ with }
    rw [heq]
    exact h₂.settle pid rfl (h₁.allowed pid u hu)
  · rw [heq]
    exact h₁

/-! ## Threads come and go -/

lemma spawn (h : s.Steady t slack spare) (spec : ThreadSpec) :
    (s.spawn spec).Steady t slack spare := by
  obtain ⟨u, -, -, ha, -, -, heq⟩ := s.spawn_eq spec
  have h₁ : { s.onEngine (·.onHost (·.addProcess spec.pid spec.parent spec.name)) with
      rng := (Random.DrawSource.draw64 0 longestDelay s.rng).2 }.Steady t slack spare := { h with }
  rw [heq]
  exact (h₁.putThread spec.pid (ha.trans (congrArg _ h.topology))).schedule _ _

lemma replace (h : s.Steady t slack spare) (pid : Nat) (u : Thread) :
    (s.replace pid u).Steady t slack spare := by
  have ho := s.engine.outcome_taskExit pid
  have h₁ := h.withQueues (e := (s.engine.taskExit pid).onHost (·.removeProcess pid))
    (n := slack) ho.topology_eq (congrArg Host.idle ho.host_eq :)
    (congrArg Host.placements ho.host_eq :)
    (show (s.engine.taskExit pid).queues.Suits t from ho.queues_eq ▸ h.queues.remove pid)
    (fun hw => by
      show (s.engine.taskExit pid).queues.entries.length ≤ slack
      rw [ho.queues_eq, (s.engine.queues.entries_remove pid).length_eq]
      exact (List.length_filter_le _ _).trans hw)
  rw [replace_eq]
  exact (h₁.eraseThread pid _).spawn _

omit [Random.DrawSource ρ] in
lemma afterRun (h : s.Steady t slack spare) (pid : Nat) (ha : u.task.allowed = t.allCpus)
    (runnable : Bool) : (s.afterRun pid u runnable).Steady t slack spare := by
  have ho := s.engine.outcome_stopping u.task runnable
  exact (h.putThread pid ha).withEngine ho.topology_eq (congrArg Host.idle ho.host_eq :)
    (congrArg Host.placements ho.host_eq :) ho.queues_eq

/-- A thread that is done leaves all cores as they are. -/
lemma retire (h : s.Steady t slack spare) (pid : Nat) (ha : u.task.allowed = t.allCpus) :
    (s.retire pid u).Steady t slack spare ∧ (s.retire pid u).cores = s.cores := by
  have h₁ := h.afterRun pid ha false
  rcases s.retire_cases pid u with heq | heq
  · rw [heq]
    exact ⟨h₁.replace pid u, rfl⟩
  · have h₂ : { s.afterRun pid u false with
        rng := (u.spec.sleep.draw s.rng).2 }.Steady t slack spare := { h₁ with }
    rw [heq]
    exact ⟨(h₂.putThread pid (u := { u with phase := .sleeping }) ha).schedule _ _, rfl⟩

omit [Random.DrawSource ρ] in
lemma requeue (h : s.Steady t slack spare) (pid : Nat) (ha : u.task.allowed = t.allCpus) :
    (s.requeue pid u).Steady t (slack + 1) spare :=
  (h.afterRun pid (u := { u with phase := .queued }) ha true).await u.task

/-- The core whose run ends takes up work; if its thread has to run on, so does another one. -/
lemma endRun {r : Run} {generation : Nat} (h : s.Steady t 0 none)
    (hrun : s.runOn? cpu = some (r, generation)) : (s.endRun cpu r).Steady t 0 none := by
  obtain ⟨c, hc, -, -⟩ := runOn?_eq_some_iff.1 hrun
  have h₁ := h.vacate cpu
  have hf : (s.vacate cpu).isFree cpu = true := by
    refine isFree_iff.2 ⟨{ c with run := none }, ?_, rfl⟩
    rw [Simulation.vacate, cores_modifyCore, if_pos rfl, hc]
    rfl
  rcases s.endRun_cases cpu r with ⟨-, heq⟩ | ⟨u, hu, ⟨-, heq⟩ | ⟨-, heq⟩⟩
  · rw [heq]
    exact h₁.takeUp hf
  · -- the thread waits again before the core takes up work, which may be the thread itself
    have ha := h.allowed r.pid u hu
    have h₂ := h₁.requeue r.pid (u := u.ranFor (s.now - r.startedAt)) ha
    rw [heq]
    exact (h₂.takeUp hf).rouse ha
  · obtain ⟨h₂, hcores⟩ := h₁.retire r.pid (u := u.ranFor (s.now - r.startedAt))
      (h.allowed r.pid u hu)
    rw [heq]
    refine h₂.takeUp ?_
    rw [isFree, hcores]
    exact hf

lemma stop (h : s.Steady t 0 none) (cpu generation : Nat) :
    (s.stop cpu generation).Steady t 0 none := by
  rcases s.stop_cases cpu generation with ⟨r, hrun, heq⟩ | ⟨-, heq⟩
  · rw [heq]
    exact h.endRun hrun
  · rw [heq]
    exact h

/-! ## Ticks and kicks -/

lemma tick (h : s.Steady t slack spare) : s.tick.Steady t slack spare := by
  obtain ⟨rng, e, he, heq⟩ := s.tick_eq
    (P := fun e => ({ s with engine := e } : Simulation ρ).Steady t slack spare) h
    fun e cpu level he => by
      have ho := (e.onHost (·.setPerf cpu level)).outcome_tick cpu
      exact he.withEngine ho.topology_eq (congrArg Host.idle ho.host_eq :)
        (congrArg Host.placements ho.host_eq :) ho.queues_eq
  have h₁ : { s with rng := rng, engine := e }.Steady t slack spare := { he with }
  rw [heq]
  exact h₁.schedule _ _

omit [Random.DrawSource ρ] in
lemma heed (h : s.Steady t slack spare) (k : Kick) : (s.heed k).Steady t slack spare := by
  rcases s.heed_cases k with heq | ⟨r, g, -, heq⟩
  · rw [heq]
    exact h
  · rw [heq]
    exact h.schedule _ _

omit [Random.DrawSource ρ] in
lemma heedKicks (h : s.Steady t slack spare) : s.heedKicks.Steady t slack spare :=
  s.heedKicks_rec (h.withEngine (e := s.engine.onHost (·.takeKicks.2)) rfl rfl rfl rfl)
    fun _ hs k _ => hs.heed k

/-- Whatever falls due, nobody waits while a core is idle after it. -/
lemma step {limit : Nat} {s' : Simulation ρ} (h : s.Steady t 0 none)
    (hs : s.step? limit = some s') : s'.Steady t 0 none := by
  obtain ⟨a, rest, -, rfl⟩ := step?_eq_some_iff.1 hs
  have h₁ : (s.comeTo a rest).Steady t 0 none := { h with }
  have h₂ : ((s.comeTo a rest).happen a.what).Steady t 0 none := by
    cases a.what with
    | wake pid => exact h₁.wake pid
    | stop cpu generation => exact h₁.stop cpu generation
    | tick => exact h₁.tick
  exact { h₂.heedKicks with }

end Steady

/-! ## What is seen from outside -/

/-- The cores that count as idle are those that run nothing, and nobody waits while there are
any. -/
structure WorkConserving (t : Topology) (s : Simulation ρ) : Prop where
  /-- A core counts as idle exactly when it is one of the machine and runs nothing. -/
  idle_iff : ∀ cpu, cpu ∈ s.engine.host.idle ↔ cpu < t.nrCpus ∧ ∀ pid, ¬ s.Runs cpu pid
  /-- If any core counts as idle, nobody waits. -/
  nobody_waits : (∃ cpu, cpu ∈ s.engine.host.idle) → s.engine.queuedTotal = 0

namespace Steady

lemma isFree_iff_not_runs (h : s.Steady t slack spare) :
    s.isFree cpu = true ↔ cpu < t.nrCpus ∧ ∀ pid, ¬ s.Runs cpu pid := by
  constructor
  · intro hf
    refine ⟨h.lt_of_isFree hf, ?_⟩
    obtain ⟨c, hc, hnone⟩ := isFree_iff.1 hf
    rintro pid ⟨d, r, hd, hr, -⟩
    rw [hc] at hd
    cases hd
    rw [hnone] at hr
    cases hr
  · rintro ⟨hlt, hruns⟩
    rw [← h.nrCores] at hlt
    have hc := Array.getElem?_eq_getElem hlt
    refine isFree_iff.2 ⟨_, hc, ?_⟩
    cases hr : s.cores[cpu].run with
    | none => rfl
    | some r => exact absurd ⟨_, r, hc, hr, rfl⟩ (hruns r.pid)

lemma workConserving (h : s.Steady t 0 none) : s.WorkConserving t where
  idle_iff cpu := by
    rw [← h.isFree_iff_not_runs]
    exact ⟨h.free cpu, fun hf => (h.idle cpu hf).resolve_right (by simp)⟩
  nobody_waits := by
    rintro ⟨cpu, hcpu⟩
    refine (DispatchQueues.total_eq h.queues.counted).trans ?_
    exact Nat.eq_zero_of_le_zero (h.waiting cpu hcpu)

end Steady

/-! ## Runs -/

/-- A simulation without threads, on an engine whose cores are all idle and whose queues are
empty. -/
lemma steady_empty {e : Engine} (ht : e.topology = t) (hi : e.host.idle = t.allCpus)
    (hp : e.host.placements = #[]) (hq : e.queues.Suits t) (hnil : e.queues.entries = []) (rng : ρ)
    (now : Nat) :
    Steady t 0 none ({
      engine := e, rng := rng, now := now, cores := Array.replicate e.topology.nrCpus {} } :
        Simulation ρ) := by
  have hcore : ∀ (cpu : Nat) (c : SimCore),
      (Array.replicate e.topology.nrCpus ({} : SimCore))[cpu]? = some c ↔
        cpu < t.nrCpus ∧ c = {} := by
    intro cpu c
    rw [Array.getElem?_replicate, ht]
    split
    · next hlt => exact ⟨fun hc => ⟨hlt, (Option.some.inj hc).symm⟩, fun hc => congrArg some hc.2.symm⟩
    · next hge => exact ⟨nofun, fun hc => absurd hc.1 hge⟩
  have hfree : ∀ cpu, isFree ({
      engine := e, rng := rng, now := now, cores := Array.replicate e.topology.nrCpus {} } :
        Simulation ρ) cpu = true ↔ cpu ∈ e.host.idle := by
    intro cpu
    rw [isFree_iff, hi]
    constructor
    · rintro ⟨c, hc, -⟩
      have hlt := ((hcore cpu c).1 hc).1
      exact CpuMask.mem_firstN.2 ⟨Nat.lt_of_lt_of_le hlt t.nrCpus_le, hlt⟩
    · intro hcpu
      exact ⟨{}, (hcore cpu {}).2 ⟨(CpuMask.mem_firstN.1 hcpu).2, rfl⟩, rfl⟩
  refine {
    direct := fun cpu c hc => by rw [((hcore cpu c).1 hc).2]
    free := fun cpu => (hfree cpu).2
    placements := hp
    topology := ht
    nrCores := Array.size_replicate.trans (congrArg Topology.nrCpus ht)
    queues := hq
    allowed := fun pid u hu => by simp at hu
    idle := fun cpu hf => .inl ((hfree cpu).1 hf)
    waiting := fun _ _ => Nat.le_of_eq (congrArg List.length hnil) }

variable [Random.DrawSource ρ]

/-- At the start nobody waits, and all cores are idle. -/
lemma steady_start {e : Engine} (ht : e.topology = t) (hhost : e.host = .ofTopology t)
    (hq : e.queues.Suits t) (hnil : e.queues.entries = []) (sc : Scenario) (rng : ρ)
    (shelf : Option Shelf) : { start e sc rng with shelf := shelf }.Steady t 0 none := by
  obtain ⟨hidle, hplaced⟩ := foldl_addProcess sc.processes e.host
  rw [hhost] at hidle hplaced
  have hempty := steady_empty (e := e.onMachine fun m => { m with
      host := sc.processes.foldl (fun h p => h.addProcess p.1 p.2.1 p.2.2) e.host
      hints := withHintsOf m.hints sc }) ht (hhost ▸ hidle) (hhost ▸ hplaced) hq hnil rng
    (sc.processes.foldl (fun h p => h.addProcess p.1 p.2.1 p.2.2) e.host).now
  have hspawned := List.foldlRecOn (motive := fun s : Simulation ρ => s.Steady t 0 none)
    sc.threads spawn hempty fun _ hs spec _ => hs.spawn spec
  have hstart : (start e sc rng).Steady t 0 none := hspawned.schedule _ _
  exact { hstart with }

lemma Visits.steady {s₀ : Simulation ρ} {last : Nat} (hv : Visits s₀ last n s)
    (h₀ : s₀.Steady t 0 none) : s.Steady t 0 none := by
  induction hv with
  | start => exact h₀
  | event _ _ hs ih => exact ih.step hs
  | rest _ _ _ ih => exact { ih with }
  | edit _ _ _ ih => exact { ih with }

/-- The simulator wastes no core.  On any machine, whatever the settings, the hints, the profiles
and the draws are, and however many threads make room, a core counts as idle exactly when it runs
nothing, whenever something has happened; and if any core counts as idle, nobody waits. -/
theorem no_core_idle_while_somebody_waits (t : Topology) (config : EngineConfig)
    (tunables : TunablesCell) (hints : Hints) :
    ∃ e, Engine.start t config tunables hints (.ofTopology t) = .ok e ∧
      ∀ (sc : Scenario) (rng : ρ) (shelf : Option Shelf) (last n : Nat) (s : Simulation ρ),
        Visits { start e sc rng with shelf := shelf } last n s → s.WorkConserving t := by
  obtain ⟨queues, hqueues, hstart⟩ := Engine.exists_start t config tunables hints (.ofTopology t)
  refine ⟨_, hstart, fun sc rng shelf last n s hs => ?_⟩
  have h₀ := steady_start (e := ⟨.make t config tunables hints (.ofTopology t),
    .ofCapacity config.taskCapacity, queues, none⟩) rfl rfl
    (DispatchQueues.suits_make hqueues) (DispatchQueues.entries_make hqueues) sc rng shelf
  exact (hs.steady h₀).workConserving

theorem no_core_idle_while_somebody_waits_shortLived :
    ∃ e, Engine.start .twoDomains { taskCapacity := 0 } none {} (.ofTopology .twoDomains) = .ok e ∧
      ∃ (s₀ s₁ s₂ : Simulation Random.KeyStream) (n : Nat),
        s₀ = { start e shortLived (.ofSeed 0) with shelf := none } ∧
        s₀.runUntil? 25844 = some s₁ ∧
        (s₁.onEngine fun e => { e with
          tunables := some { gamingMode := false }, hints := {} }).runUntil? 30000 = some s₂ ∧
        Visits s₀ 30000 n s₂ ∧ s₂.nextPid = 10001 ∧ s₂.WorkConserving .twoDomains := by
  obtain ⟨e, hstart, h⟩ := no_core_idle_while_somebody_waits (ρ := Random.KeyStream) .twoDomains
    { taskCapacity := 0 } none {}
  obtain rfl : Engine.onTwoDomains = e :=
    Except.ok.inj (Engine.start_twoDomains.symm.trans hstart)
  obtain ⟨s₀, s₁, s₂, n, rfl, hrun₁, hrun₂, hv, -, hnext⟩ := shortLived_runs
  exact ⟨_, hstart, _, s₁, s₂, n, rfl, hrun₁, hrun₂, hv, hnext,
    h shortLived (.ofSeed 0) none 30000 n s₂ hv⟩

end CoreSteer.Simulation
