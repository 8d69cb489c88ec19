import CoreSteer.Proofs.Simulation.Places
/-!
# Whatever happens, every thread is in one place

Everything that happens in a simulation takes a thread from one place to another, by way of
decisions of the engine: a thread wakes up and is put on a core or waits, a core takes up work, a
run ends.  Each of these keeps the simulation orderly.
-/
namespace CoreSteer.Simulation

variable {ρ : Type} {s : Simulation ρ} {due : Option Occurrence} {moving : Option Nat}
  {pid cpu : Nat} {t : Thread}

/-! ## Choosing a core -/

/-- The engine finds an idle core for a task and puts it there, or it names the core on which the
task was.  Either way nothing that it placed is left, and just the core that was found is not idle
any more. -/
lemma choose_eq (s : Simulation ρ) (task : Task) (hp : s.engine.host.placements = #[]) :
    ∃ found e,
      s.choose task =
        ((found.getD task.cpu,
          found.map fun cpu => ⟨task.pid, cpu, s.engine.tunables.load.slice⟩),
          { s with engine := e }) ∧
      e.topology = s.engine.topology ∧ e.queues = s.engine.queues ∧ e.host.placements = #[] ∧
      (∀ cpu, cpu ∈ e.host.idle ↔ cpu ∈ s.engine.host.idle ∧ found ≠ some cpu) ∧
      ∀ cpu, found = some cpu → cpu ∈ s.engine.host.idle := by
  obtain ⟨found, host, hanswer, ⟨lost, hsearch⟩, ho⟩ :=
    s.engine.outcome_selectCpu task task.cpu
  have htopology := ho.topology_eq
  have hhost := ho.host_eq
  have hqueues := ho.queues_eq
  unfold choose
  rw [askEngine_eq]
  rcases hsel : s.engine.selectCpu task task.cpu with ⟨answer, e⟩
  rw [hsel] at hanswer htopology hhost hqueues
  dsimp only at hanswer htopology hhost hqueues ⊢
  subst hanswer
  have hdone : (e.onHost fun _ => e.host.takePlacements.2).host.placements = #[] := rfl
  have hsame : (e.onHost fun _ => e.host.takePlacements.2).queues = s.engine.queues := hqueues
  have hmachine : (e.onHost fun _ => e.host.takePlacements.2).topology = s.engine.topology :=
    htopology
  cases found with
  | none =>
    obtain rfl := hsearch
    have hnone : e.host.takePlacements.1 = [] := by
      rw [Host.takePlacements, hhost, Engine.placed, hp]
    have hidle : e.host.idle = s.engine.host.idle := by rw [hhost]; rfl
    refine ⟨none, e.onHost fun _ => e.host.takePlacements.2, ?_, hmachine, hsame, hdone, ?_, by simp⟩
    · simp only [hnone, List.find?_nil, Option.map_none]
    · intro cpu
      show cpu ∈ e.host.idle ↔ _
      simp [hidle]
  | some cpu =>
    obtain ⟨hidle, -, rfl⟩ := hsearch
    have hone : e.host.takePlacements.1 =
        [⟨task.pid, cpu, s.engine.tunables.load.slice⟩] := by
      rw [Host.takePlacements, hhost, Engine.placed, Host.place, hp]
      rfl
    have hclear : e.host.idle = s.engine.host.idle.clear cpu := by rw [hhost]; rfl
    refine ⟨some cpu, e.onHost fun _ => e.host.takePlacements.2, ?_, hmachine, hsame, hdone, ?_, ?_⟩
    · simp [hone]
    · intro j
      show j ∈ e.host.idle ↔ _
      rw [hclear, CpuMask.mem_clear]
      simp [eq_comm]
    · intro j hj
      cases hj
      exact hidle

namespace Tended

/-- A core that runs nothing begins to run what is put straight on it. -/
lemma takeUp_direct (h : s.Tended) (ht : s.threads[pid]? = some t) (hp : t.phase = .queued)
    (hfree : s.isFree cpu = true) (slice : Nat) :
    (s.modifyCore cpu fun c => { c with direct := c.direct ++ [(pid, slice)] }).takeUp cpu =
      s.begin cpu pid slice := by
  obtain ⟨c, hc, hnone⟩ := isFree_iff.1 hfree
  have hdirect := h.direct cpu c hc
  have hput : (s.modifyCore cpu fun c =>
      { c with direct := c.direct ++ [(pid, slice)] }).cores[cpu]? =
        some { c with direct := [(pid, slice)] } := by
    rw [cores_modifyCore, if_pos rfl, hc]
    simp [hdirect]
  have hfree' : (s.modifyCore cpu fun c =>
      { c with direct := c.direct ++ [(pid, slice)] }).isFree cpu = true :=
    isFree_iff.2 ⟨_, hput, hnone⟩
  -- what is put on the core is taken off again before it runs
  have hback : (s.modifyCore cpu fun c =>
      { c with direct := c.direct ++ [(pid, slice)] }).modifyCore cpu (fun c =>
        { c with direct := [] }) = s := by
    have hcores : ((s.cores.modify cpu fun c =>
        { c with direct := c.direct ++ [(pid, slice)] }).modify cpu fun c =>
          { c with direct := [] }) = s.cores := by
      refine Array.ext_getElem? fun j => ?_
      rw [Array.getElem?_modify, Array.getElem?_modify]
      split
      · next hj =>
        subst hj
        rw [hc, ← hdirect]
        rfl
      · rfl
    exact congrArg (fun cores => { s with cores := cores }) hcores
  have hqueued : s.isQueued pid = true := by simp [isQueued, ht, hp]
  unfold Simulation.takeUp
  rw [if_pos hfree']
  unfold pull nextFor
  rw [hput]
  simp only [Option.map_some, Option.getD_some]
  rw [hback, if_pos hqueued]

/-- A thread that is to wait begins to run on the core that the engine finds for it.  If the engine
finds none, the thread waits, and some idle core takes up work. -/
lemma settle_cases (h : s.Tended) (pid : Nat) (hp : t.phase = .queued) :
    ∃ found e, (s.choose t.task).2.engine = e ∧ e.topology = s.engine.topology ∧
      e.queues = s.engine.queues ∧ e.host.placements = #[] ∧
      (∀ cpu, cpu ∈ e.host.idle ↔ cpu ∈ s.engine.host.idle ∧ found ≠ some cpu) ∧
      (∀ cpu, found = some cpu → s.isFree cpu = true) ∧
      s.settle pid t = match found with
        | some cpu =>
          ({ s with engine := e }.putThread pid { t with task := { t.task with cpu := cpu } }).begin
            cpu pid s.engine.tunables.load.slice
        | none => (({ s with engine := e }.putThread pid t).await t.task).rouse t.task := by
  obtain ⟨found, e, hchoose, htopology, hqueues, hplaced, hidle, hfound⟩ :=
    choose_eq s t.task h.placements
  -- a core that is found counts as idle, so it runs nothing
  have hfree : ∀ cpu, found = some cpu → s.isFree cpu = true :=
    fun cpu hf => h.free cpu (hfound cpu hf)
  refine ⟨found, e, by rw [hchoose], htopology, hqueues, hplaced, hidle, hfree, ?_⟩
  unfold Simulation.settle
  rw [hchoose]
  cases found with
  | some cpu =>
    have h₁ := h.withEngine (e := e) (fun j hj => ((hidle j).1 hj).1) hplaced
    have h₂ : ({ s with engine := e }.putThread pid
        { t with task := { t.task with cpu := cpu } }).Tended := { h₁ with }
    simp only [Option.map_some]
    exact h₂.takeUp_direct (threads_putThread_self _ _ _) hp (hfree cpu rfl) _
  | none => rfl

end Tended

namespace Orderly

/-! ## Cores take up work -/

/-- A thread that is moving begins to run on a core that runs nothing. -/
lemma begin (h : s.Orderly due (some pid)) (ht : s.threads[pid]? = some t)
    (hfree : s.isFree cpu = true) (slice : Nat) : (s.begin cpu pid slice).Orderly due none := by
  have ho := (s.engine.onHost (·.setIdle cpu false)).outcome_running { t.task with cpu := cpu }
  have hidle : ∀ j, j ∈ ((s.engine.onHost (·.setIdle cpu false)).running
      { t.task with cpu := cpu }).host.idle → j ∈ s.engine.host.idle ∧ j ≠ cpu := by
    intro j hj
    rw [ho.host_eq] at hj
    exact CpuMask.mem_clear.1 hj
  have hplaced : ((s.engine.onHost (·.setIdle cpu false)).running
      { t.task with cpu := cpu }).host.placements = #[] := by
    rw [ho.host_eq]
    exact h.placements
  have h₁ := (h.withEngine ho.queues_eq (fun j hj => (hidle j hj).1) hplaced).putMoving
    (t := { t with task := { t.task with cpu := cpu }, phase := .running }) (h.known pid t ht)
  rw [begin_eq ht]
  exact h₁.startRun (threads_putThread_self _ _ _) rfl rfl hfree
    (fun hc => (hidle cpu hc).2 rfl) rfl _ _

/-- A core that runs nothing goes idle if the queues that it looks at give nothing; otherwise it
begins to run the thread that they give, which waits until then. -/
lemma takeUp_cases (h : s.Orderly due none) (hfree : s.isFree cpu = true) :
    (s.engine.queues.popFirst? (drainOrder s.engine.topology cpu) = none ∧
      Engine.Outcome .nothing s.engine s.engine.host s.engine.queues (s.engine.dispatch cpu).2 ∧
      s.takeUp cpu = { s with engine := (s.engine.dispatch cpu).2 }.rest cpu) ∨
    ∃ w t queues,
      s.engine.queues.popFirst? (drainOrder s.engine.topology cpu) = some (w, queues) ∧
      Engine.Outcome .nothing (s.engine.onMachine (·.bump .dispatched)) s.engine.host queues
        (s.engine.dispatch cpu).2 ∧
      s.threads[w.pid]? = some t ∧ t.phase = .queued ∧
      { s with engine := (s.engine.dispatch cpu).2 }.Orderly due (some w.pid) ∧
      s.takeUp cpu = { s with engine := (s.engine.dispatch cpu).2 }.begin cpu w.pid w.slice := by
  unfold Simulation.takeUp
  rw [if_pos hfree]
  unfold pull
  rw [h.nextFor_eq]
  rcases hp : s.engine.queues.popFirst? (drainOrder s.engine.topology cpu) with _ | ⟨w, queues⟩
  · obtain ⟨hnone, ho⟩ := s.engine.outcome_dispatch_none hp
    rw [hnone]
    exact .inl ⟨rfl, ho, rfl⟩
  · obtain ⟨hsome, ho⟩ := s.engine.outcome_dispatch_some hp
    obtain ⟨id, -, hpop⟩ := DispatchQueues.popFirst?_eq_some hp
    rw [hsome]
    have hq : s.engine.queues.entries.Perm
        (w :: (s.engine.dispatch cpu).2.queues.entries) := by
      rw [ho.queues_eq]
      exact DispatchQueues.entries_of_pop? hpop
    obtain ⟨⟨t, ht, hphase⟩, h₁⟩ := h.handOut hq (fun j hj => ho.host_eq ▸ hj)
      (ho.host_eq ▸ h.placements)
    -- whatever is in the queues waits, so the first thread that comes up is begun
    have hqueued : isQueued { s with engine := (s.engine.dispatch cpu).2 } w.pid = true := by
      simp [isQueued, ht, hphase]
    refine .inr ⟨w, t, queues, rfl, ho, ht, hphase, h₁, ?_⟩
    simp only [Option.map_some]
    rw [if_pos hqueued]

lemma takeUp (h : s.Orderly due none) (cpu : Nat) : (s.takeUp cpu).Orderly due none := by
  by_cases hfree : s.isFree cpu = true
  · rcases h.takeUp_cases hfree with ⟨-, ho, heq⟩ | ⟨w, t, queues, -, -, ht, -, h₁, heq⟩
    · rw [heq]
      exact (h.withEngine ho.queues_eq (fun j hj => ho.host_eq ▸ hj)
        (ho.host_eq ▸ h.placements)).rest hfree
    · rw [heq]
      exact h₁.begin ht hfree w.slice
  · unfold Simulation.takeUp
    rw [if_neg hfree]
    exact h

lemma takeCore (h : s.Orderly due moving) (cpu : Nat) :
    (s.onEngine (·.onHost fun h => (h.take cpu).2)).Orderly due moving := by
  have htake : ∀ host : Host, (host.take cpu).2.placements = host.placements ∧
      ∀ j ∈ (host.take cpu).2.idle, j ∈ host.idle := by
    intro host
    unfold Host.take
    split
    · exact ⟨rfl, fun j hj => (CpuMask.mem_clear.1 hj).1⟩
    · exact ⟨rfl, fun j hj => hj⟩
  exact h.withEngine rfl (htake s.engine.host).2 ((htake s.engine.host).1.trans h.placements)

lemma rouse (h : s.Orderly due none) (task : Task) : (s.rouse task).Orderly due none := by
  rcases s.rouse_cases task with ⟨cpu, -, -, -, heq⟩ | ⟨-, heq⟩
  · rw [heq]
    exact (h.takeCore cpu).takeUp cpu
  · rw [heq]
    exact h

/-! ## Threads wake up -/

lemma lookUp (h : s.Orderly due moving) (pid : Nat) : (s.lookUp pid).Orderly due moving := by
  rcases s.lookUp_cases pid with ⟨-, heq⟩ | ⟨t, ht, heq | ⟨shelf, tunables, heq⟩⟩
  · rw [heq]
    exact h
  · rw [heq]
    exact h.keepThread ht rfl rfl
  · have h₁ : (s.putThread pid { t with seen := true }).Orderly due moving :=
      h.keepThread ht rfl rfl
    rw [heq]
    exact { h₁ with }

/-- A thread that is moving and is to wait finds a core, or waits. -/
lemma settle (h : s.Orderly due (some pid)) (hpid : t.task.pid = pid) (hp : t.phase = .queued) :
    (s.settle pid t).Orderly due none := by
  obtain ⟨found, e, -, -, hqueues, hplaced, hidle, hfree, heq⟩ := h.settle_cases pid hp
  have h₁ := h.withEngine hqueues (fun j hj => ((hidle j).1 hj).1) hplaced
  rw [heq]
  cases found with
  | some cpu =>
    have h₂ := h₁.putMoving (t := { t with task := { t.task with cpu := cpu } }) hpid
    exact h₂.begin (threads_putThread_self _ _ _) (hfree cpu rfl) _
  | none =>
    have h₂ := h₁.putMoving (t := t) hpid
    exact (h₂.await (threads_putThread_self _ _ _) hp hpid).rouse _

variable [Random.DrawSource ρ]

/-- A thread whose time to wake up has come sleeps, and draws how long it is to run. -/
lemma wake_eq (h : s.Orderly (some (.wake pid)) none) :
    ∃ t, (s.lookUp pid).threads[pid]? = some t ∧ t.phase = .sleeping ∧ t.task.pid = pid ∧
      { s.lookUp pid with rng := (t.spec.run.draw (s.lookUp pid).rng).2 }.Orderly none (some pid) ∧
      s.wake pid = { s.lookUp pid with rng := (t.spec.run.draw (s.lookUp pid).rng).2 }.settle pid
        { t with
          remaining := max (t.spec.run.draw (s.lookUp pid).rng).1 1
          phase := .queued } := by
  obtain ⟨⟨u, hu, hp⟩, h₁⟩ := (h.lookUp pid).wakeUp
  rcases s.wake_cases pid with ⟨t, ht, hsleeps, heq⟩ | ⟨hawake, -⟩
  · exact ⟨t, ht, hsleeps, h₁.known pid t ht, { h₁ with }, heq⟩
  · exact absurd hp (hawake u hu)

lemma wake (h : s.Orderly (some (.wake pid)) none) : (s.wake pid).Orderly none none := by
  obtain ⟨t, -, -, hpid, h₁, heq⟩ := h.wake_eq
  rw [heq]
  exact h₁.settle hpid rfl

/-! ## Threads come and go -/

omit [Random.DrawSource ρ] in
lemma lieDown (h : s.Orderly due (some pid)) (hpid : t.task.pid = pid) (hp : t.phase = .sleeping)
    (rng : ρ) (time : Nat) :
    (({ s with rng := rng }.putThread pid t).schedule time (.wake pid)).Orderly due none := by
  have h₁ : { s with rng := rng }.Orderly due (some pid) := { h with }
  exact (h₁.putMoving hpid).fallAsleep (threads_putThread_self _ _ _) hp time

/-- A thread comes into being under an id that no thread has. -/
lemma spawn (h : s.Orderly due none) {spec : ThreadSpec} (hnew : s.threads[spec.pid]? = none) :
    (s.spawn spec).Orderly due none := by
  obtain ⟨t, -, hpid, -, hp, -, heq⟩ := s.spawn_eq spec
  have h₁ : (s.onEngine (·.onHost (·.addProcess spec.pid spec.parent spec.name))).Orderly due
      (some spec.pid) :=
    (h.newcomer hnew).withEngine rfl (fun j hj => hj) h.placements
  rw [heq]
  exact h₁.lieDown hpid hp _ _

omit [Random.DrawSource ρ] in
/-- A thread that is moving is gone; the engine was told. -/
lemma goAway (h : s.Orderly due (some pid)) (next : Nat) :
    { s with
      engine := (s.engine.taskExit pid).onHost (·.removeProcess pid)
      threads := s.threads.erase pid
      nextPid := next }.Orderly due none := by
  have ho := s.engine.outcome_taskExit pid
  have hq : ((s.engine.taskExit pid).onHost (·.removeProcess pid)).queues.entries.Perm
      (s.engine.queues.entries.filter (·.pid != pid)) := by
    show (s.engine.taskExit pid).queues.entries.Perm _
    rw [ho.queues_eq]
    exact s.engine.queues.entries_remove pid
  refine h.leave next hq (fun j hj => ?_) ?_
  · have hmem : j ∈ (s.engine.taskExit pid).host.idle := hj
    rw [ho.host_eq] at hmem
    exact hmem
  · show (s.engine.taskExit pid).host.placements = #[]
    rw [ho.host_eq]
    exact h.placements

/-- A thread that is moving makes room for its successor, whose id no other thread has. -/
lemma replace (h : s.Orderly due (some pid)) (hnew : s.nextPid ∉ s.threads) (t : Thread) :
    (s.replace pid t).Orderly due none := by
  rw [replace_eq]
  refine (h.goAway _).spawn ?_
  refine (s.threads_erase pid s.nextPid).trans ?_
  rw [Std.ExtTreeMap.getElem?_eq_none hnew, ite_self]

omit [Random.DrawSource ρ] in
/-- The engine is told that a run is over. -/
lemma afterRun (h : s.Orderly due (some pid)) (hpid : t.task.pid = pid) (runnable : Bool) :
    (s.afterRun pid t runnable).Orderly due (some pid) := by
  have ho := s.engine.outcome_stopping t.task runnable
  exact (h.putMoving hpid).withEngine ho.queues_eq (fun j hj => ho.host_eq ▸ hj)
    (ho.host_eq ▸ h.placements)

/-- A run is over: its thread sleeps, or makes room for its successor. -/
lemma retire (h : s.Orderly due (some pid)) (hnew : s.nextPid ∉ s.threads) (hmem : pid ∈ s.threads)
    (hpid : t.task.pid = pid) : (s.retire pid t).Orderly due none := by
  have h₁ := h.afterRun hpid false
  have hnew₁ : s.nextPid ∉ (s.afterRun pid t false).threads :=
    nextPid_not_mem_putThread hnew hmem t
  rcases s.retire_cases pid t with heq | heq
  · rw [heq]
    exact h₁.replace hnew₁ t
  · rw [heq]
    exact h₁.lieDown (t := { t with phase := .sleeping }) hpid rfl _ _

omit [Random.DrawSource ρ] in
lemma requeue (h : s.Orderly due (some pid)) (hpid : t.task.pid = pid) :
    (s.requeue pid t).Orderly due none := by
  have h₁ := h.afterRun (t := { t with phase := .queued }) hpid true
  exact h₁.await (threads_putThread_self s pid { t with phase := .queued }) rfl hpid

/-- The end of a run that goes on ends it: its thread, which is moving from then on, waits again or is
done, depending on what is left for it to do. -/
lemma endRun_eq {c : SimCore} {r : Run} (h : s.Orderly (some (.stop cpu c.generation)) none)
    (hc : s.cores[cpu]? = some c) (hr : c.run = some r) :
    ∃ t, s.threads[r.pid]? = some t ∧ t.phase = .running ∧ t.task.cpu = cpu ∧
      t.task.pid = r.pid ∧ (s.vacate cpu).Orderly none (some r.pid) ∧
      (0 < (t.ranFor (s.now - r.startedAt)).remaining ∧
        s.endRun cpu r = (((s.vacate cpu).requeue r.pid
          (t.ranFor (s.now - r.startedAt))).takeUp cpu).rouse t.task ∨
      (t.ranFor (s.now - r.startedAt)).remaining = 0 ∧
        s.endRun cpu r =
          ((s.vacate cpu).retire r.pid (t.ranFor (s.now - r.startedAt))).takeUp cpu) := by
  obtain ⟨⟨t, ht, hp, hcpu⟩, h₁⟩ := h.endOfRun hc hr
  rcases s.endRun_cases cpu r with ⟨hnone, -⟩ | ⟨u, hu, heq⟩
  · rw [ht] at hnone
    cases hnone
  · obtain rfl : t = u := Option.some.inj (ht.symm.trans hu)
    exact ⟨t, ht, hp, hcpu, h.known r.pid t ht, h₁, heq⟩

lemma endRun {c : SimCore} {r : Run} (h : s.Orderly (some (.stop cpu c.generation)) none)
    (hnew : s.nextPid ∉ s.threads) (hc : s.cores[cpu]? = some c) (hr : c.run = some r) :
    (s.endRun cpu r).Orderly none none := by
  obtain ⟨t, ht, -, -, hpid, h₁, ⟨-, heq⟩ | ⟨-, heq⟩⟩ := h.endRun_eq hc hr
  · have h₂ := h₁.requeue (t := t.ranFor (s.now - r.startedAt)) hpid
    rw [heq]
    exact (h₂.takeUp cpu).rouse _
  · have h₂ := h₁.retire (t := t.ranFor (s.now - r.startedAt)) hnew (mem_threads_of_eq_some ht) hpid
    rw [heq]
    exact h₂.takeUp cpu

omit [Random.DrawSource ρ] in
/-- An end that was put on the agenda for an earlier run passes without effect. -/
lemma passStop {generation : Nat} (h : s.Orderly (some (.stop cpu generation)) moving)
    (hended : ∀ r, s.runOn? cpu ≠ some (r, generation)) : s.Orderly none moving := by
  refine h.pass (by simp) fun j c r hc hr he => ?_
  obtain ⟨rfl, hg⟩ := Occurrence.stop.inj he
  exact hended r (runOn?_eq_some_iff.2 ⟨c, hc, hr, hg.symm⟩)

/-- The time of a run to end has come, if it has not ended before. -/
lemma stop {generation : Nat} (h : s.Orderly (some (.stop cpu generation)) none)
    (hnew : s.nextPid ∉ s.threads) : (s.stop cpu generation).Orderly none none := by
  rcases s.stop_cases cpu generation with ⟨r, hrun, heq⟩ | ⟨hended, heq⟩
  · obtain ⟨c, hc, hr, rfl⟩ := runOn?_eq_some_iff.1 hrun
    rw [heq]
    exact h.endRun hnew hc hr
  · rw [heq]
    exact h.passStop hended

/-! ## Ticks and kicks -/

lemma tick (h : s.Orderly (some .tick) none) : s.tick.Orderly none none := by
  have h₀ : s.Orderly none none := h.pass (by simp) (by simp)
  obtain ⟨rng, e, he, heq⟩ := s.tick_eq
    (P := fun e => ({ s with engine := e } : Simulation ρ).Orderly none none) h₀
    fun e cpu level he => by
      have ho := (e.onHost (·.setPerf cpu level)).outcome_tick cpu
      exact he.withEngine ho.queues_eq (fun j hj => by rw [ho.host_eq] at hj; exact hj)
        (by rw [ho.host_eq]; exact he.placements)
  have h₁ : { s with rng := rng, engine := e }.Orderly none none := { he with }
  rw [heq]
  exact h₁.schedule _ (by simp)

omit [Random.DrawSource ρ] in
/-- A kick puts an end on the agenda; it takes nobody anywhere. -/
lemma heed (h : s.Orderly due moving) (k : Kick) : (s.heed k).Orderly due moving := by
  rcases s.heed_cases k with heq | ⟨r, g, -, heq⟩
  · rw [heq]
    exact h
  · rw [heq]
    exact h.schedule _ (by simp)

omit [Random.DrawSource ρ] in
lemma heedKicks (h : s.Orderly due moving) : s.heedKicks.Orderly due moving :=
  s.heedKicks_rec (h.withEngine (e := s.engine.onHost (·.takeKicks.2)) rfl (fun _ hj => hj)
    h.placements) fun _ hs k _ => hs.heed k

/-! ## What falls due -/

omit [Random.DrawSource ρ] in
/-- What is taken off the agenda falls due. -/
lemma comeTo (h : s.Orderly none moving) {limit : Nat} {a : Appointment} {rest : Agenda}
    (ha : s.agenda.take? limit = some (a, rest)) :
    (s.comeTo a rest).Orderly (some a.what) moving := by
  have hperm : (s.pending none).Perm ((s.comeTo a rest).pending (some a.what)) :=
    (Agenda.toList_of_take? ha).map Appointment.what
  exact { h with
    wakes := fun pid => (hperm.count_eq _).symm.trans (h.wakes pid)
    stops := fun cpu c r hc hr => hperm.mem_iff.1 (h.stops cpu c r hc hr) }

lemma happen {what : Occurrence} (h : s.Orderly (some what) none) (hnew : s.nextPid ∉ s.threads) :
    (s.happen what).Orderly none none := by
  cases what with
  | wake pid => exact h.wake
  | stop cpu generation => exact h.stop hnew
  | tick => exact h.tick

/-- Whatever falls due, every thread is in one place after it, as long as the id for the next thread
is nobody's. -/
lemma step {limit : Nat} {s' : Simulation ρ} (h : s.Orderly none none)
    (hnew : s.nextPid ∉ s.threads) (hs : s.step? limit = some s') : s'.Orderly none none := by
  obtain ⟨a, rest, ha, rfl⟩ := step?_eq_some_iff.1 hs
  have h₁ := ((h.comeTo ha).happen hnew).heedKicks
  exact { h₁ with }

end Orderly

end CoreSteer.Simulation
