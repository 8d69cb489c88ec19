import CoreSteer.Proofs.Simulation.Charge
import CoreSteer.Proofs.Simulation.Clock
/-!
# Whatever happens uses up charge

Every function of a step has a lemma here that says how much charge it adds.  A core that takes up
work adds one, for the end of the run that it begins.  A thread that comes to wait adds three if it
is gaming, for its kick, and nothing otherwise.  A thread that goes to sleep or comes into being
adds five, for its waking up.  What falls due counted for more than all that it brings about, so
each event uses up charge (`Paced.happen`).

The end of a run needs most care (`Paced.endRun`).  A run that began earlier counted six, enough for
its thread to wait and kick, or to sleep and wake up again.  A run that began now and ends now was
kicked, so its thread is not gaming and got nothing done: it can only wait again, and kicks nobody.
That is why a chain of kicks comes to an end.

All this needs that a run ends later than it begins, and the next tick comes later than this one, so
the clock has to have room for them (`Simulation.Fits`).
-/
namespace CoreSteer.Simulation

variable {ρ : Type} {s : Simulation ρ} {t : Topology} {due : Option Occurrence}
  {moving : Option Nat} {now n pid cpu longest : Nat} {u : Thread}

namespace Paced

/-! ## Cores take up work -/

/-- A thread that is moving begins to run; only the end of its run is new. -/
lemma begin (h : s.Paced t now (some pid) n) (ho : s.Orderly due (some pid))
    (hf : s.Fits longest) (hu : s.threads[pid]? = some u) (hready : 0 < u.remaining)
    (hfree : s.isFree cpu = true) (slice : Nat) : (s.begin cpu pid slice).Paced t now none (n + 1) := by
  have h₁ := (h.onHost (f := (·.setIdle cpu false)) rfl).putThread pid
    (u := { u with task := { u.task with cpu := cpu }, phase := .running }) (by simp)
  have h₂ := h₁.startRun hfree { u.task with cpu := cpu } rfl (ho.known pid u hu) ho.rests
    (s.nextGeneration cpu) fun c hc => by
      have hc : s.cores[cpu]? = some c := hc
      rw [nextGeneration, hc]
      exact Nat.lt_succ_self _
  have h₃ := h₂.arrive (threads_putThread_self _ _ _) fun _ => hready
  -- the run lasts for a while, so its end is not due yet
  have hlength : 0 < min u.remaining (max slice 1) := by omega
  have hend := hf.later_eq ((Nat.min_le_left _ (max slice 1)).trans (hf.threads pid u hu).1)
  rw [begin_eq hu]
  refine h₃.scheduleLater _ (fun _ _ _ => ?_) (fun j c g hc he => ?_) (by simp) (Nat.le_refl 1)
  · rw [hend]
    exact Nat.lt_add_of_pos_right hlength
  · obtain ⟨rfl, rfl⟩ := Occurrence.stop.inj he
    rw [cores_modifyCore, if_pos rfl] at hc
    obtain ⟨d, -, rfl⟩ := Option.map_eq_some_iff.1 hc
    exact Nat.le_refl _

lemma rest (h : s.Paced t now moving n) (cpu : Nat) : (s.rest cpu).Paced t now moving n :=
  h.onHost rfl

lemma takeUp (h : s.Paced t now none n) (ho : s.Orderly due none) (hf : s.Fits longest)
    (cpu : Nat) : (s.takeUp cpu).Paced t now none (n + 1) := by
  by_cases hfree : s.isFree cpu = true
  · rcases ho.takeUp_cases hfree with ⟨-, hout, heq⟩ | ⟨w, v, queues, -, hout, hv, hphase, ho₁, heq⟩
    · have h₁ := h.withCall (c := .dispatch cpu) trivial rfl (congrArg Host.kicks hout.host_eq)
      rw [heq]
      exact (h₁.rest cpu).mono (Nat.le_succ n)
    · have h₁ := h.withCall (c := .dispatch cpu) trivial rfl (congrArg Host.kicks hout.host_eq)
      have hf₁ : { s with engine := (s.engine.dispatch cpu).2 }.Fits longest := { hf with }
      rw [heq]
      -- whoever waits has something to run for
      have hready := h.ready w.pid v hv (by simp) (by simp [hphase])
      exact (h₁.loosen w.pid).begin ho₁ hf₁ hv hready hfree w.slice
  · unfold Simulation.takeUp
    rw [if_neg hfree]
    exact h.mono (Nat.le_succ n)

lemma rouse (h : s.Paced t now none n) (ho : s.Orderly due none) (hf : s.Fits longest)
    (task : Task) : (s.rouse task).Paced t now none (n + 1) := by
  rcases s.rouse_cases task with ⟨cpu, -, -, -, heq⟩ | ⟨-, heq⟩
  · have hkicks : (s.engine.host.take cpu).2.kicks = s.engine.host.kicks := by
      unfold Host.take
      split <;> rfl
    rw [heq]
    exact (h.onHost (f := fun h => (h.take cpu).2) hkicks).takeUp (ho.takeCore cpu) { hf with } cpu
  · rw [heq]
    exact h.mono (Nat.le_succ n)

/-- A thread that is moving comes to wait.  Only if it is gaming it kicks a core, and that core
gives way. -/
lemma await (h : s.Paced t now (some pid) n) (ho : s.Orderly due (some pid))
    (hu : s.threads[pid]? = some u) (hready : 0 < u.remaining) {task : Task}
    (hpid : task.pid = pid) :
    (s.await task).Paced t now none (n + s.kickPrice pid) := by
  subst hpid
  have hp : s.occupancy.Permits t (.enqueue task) := ho.rests
  have hgives : ∀ j, s.GivesWay j → (s.await task).GivesWay j := fun j hj =>
    hj.after h.mirrors hp rfl rfl
  rcases h.mirrors.kicks_enqueue task with hsame | ⟨hgaming, k, hkick, q, hq, hurgency⟩
  · have h₁ : (s.await task).Paced t now (some task.pid) n :=
      h.withCall (c := .enqueue task) hp rfl hsame
    exact (h₁.arrive hu fun _ => hready).mono (Nat.le_add_right _ _)
  · have h₁ : (s.await task).Paced t now (some task.pid) (n + s.kickPrice task.pid) :=
      { h with
        mirrors := h.mirrors.after hp
        kicked := fun k' hk' => by
          have hk' : k' ∈ (s.engine.enqueue task).host.kicks := hk'
          rw [hkick] at hk'
          rcases Array.mem_push.1 hk' with hk' | rfl
          · exact hgives _ (h.kicked k' hk')
          · exact hgives _ ⟨q, hq, hurgency⟩
        cut := fun cpu r g hr hnow he => hgives cpu (h.cut cpu r g hr hnow he)
        charge_le := by
          have hcharge := h.charge_le
          unfold charge at hcharge ⊢
          change s.expected + s.stakes + 3 * (s.engine.enqueue task).host.kicks.size ≤ _
          rw [hkick, Array.size_push, kickPrice, if_pos hgaming]
          omega }
    exact h₁.arrive hu fun _ => hready

/-! ## Threads wake up -/

lemma lookUp (h : s.Paced t now none n) (pid : Nat) : (s.lookUp pid).Paced t now none n := by
  rcases s.lookUp_cases pid with ⟨-, heq⟩ | ⟨u, hu, heq | ⟨shelf, tunables, heq⟩⟩
  · rw [heq]
    exact h
  · rw [heq]
    exact h.putThread pid (u := { u with seen := true }) (h.ready pid u hu)
  · have h₁ := h.putThread pid (u := { u with seen := true }) (h.ready pid u hu)
    have h₂ := h₁.withCall (c := .settings tunables) trivial rfl rfl
    have h₃ := h₂.withCall (c := .noteProfileMatch u.task) trivial rfl rfl
    rw [heq]
    exact { h₃ with }

/-- Choosing a core is a call that kicks nobody, followed by the platform's taking up of what was
placed. -/
lemma chosen (h : s.Paced t now moving n) {task : Task} (hrests : s.occupancy.Rests task.pid) :
    { s with engine := (s.choose task).2.engine }.Paced t now moving n := by
  have h₁ := h.withCall (c := .selectCpu task task.cpu) hrests rfl
    (s.engine.kicks_selectCpu task task.cpu)
  exact h₁.onHost (f := fun h => h.takePlacements.2) rfl

/-- A thread that is to wait begins to run at once, or it waits and kicks a core while another core
takes up work. -/
lemma settle (h : s.Paced t now (some pid) n) (ho : s.Orderly due (some pid))
    (hf : s.Fits longest) (hpid : u.task.pid = pid) (hp : u.phase = .queued)
    (hready : 0 < u.remaining) (hr : u.remaining ≤ longest) (hspec : u.spec.longest ≤ longest) :
    (s.settle pid u).Paced t now none (n + 4) := by
  obtain ⟨found, e, hchosen, -, hqueues, hplaced, hidle, hfree, heq⟩ := ho.settle_cases pid hp
  have h₁ : { s with engine := e }.Paced t now (some pid) n :=
    hchosen ▸ h.chosen (hpid ▸ ho.rests)
  have ho₁ := ho.withEngine hqueues (fun j hj => ((hidle j).1 hj).1) hplaced
  have hf₁ : { s with engine := e }.Fits longest := { hf with }
  rw [heq]
  cases found with
  | some cpu =>
    have h₂ := h₁.putThread pid (u := { u with task := { u.task with cpu := cpu } })
      (by simp)
    have ho₂ := ho₁.putMoving (t := { u with task := { u.task with cpu := cpu } }) hpid
    have hf₂ := hf₁.putThread pid (u := { u with task := { u.task with cpu := cpu } }) hr hspec
    exact (h₂.begin ho₂ hf₂ (threads_putThread_self _ _ _) hready (hfree cpu rfl) _).mono (by omega)
  | none =>
    have h₂ := h₁.putThread pid (u := u) (by simp)
    have ho₂ := ho₁.putMoving (t := u) hpid
    have hf₂ := hf₁.putThread pid hr hspec
    have h₃ := h₂.await ho₂ (threads_putThread_self _ _ _) hready hpid
    have ho₃ := ho₂.await (threads_putThread_self _ _ _) hp hpid
    have hprice := Nat.add_le_add_left (kickPrice_le ({ s with engine := e }.putThread pid u) pid) n
    exact (h₃.rouse ho₃ { hf₂ with } u.task).mono (Nat.succ_le_succ hprice)

variable [Random.DrawSource ρ]

section

variable [Random.LawfulDrawSource ρ]

lemma wake (h : s.Paced t now none n) (ho : s.Orderly (some (.wake pid)) none)
    (hf : s.Fits longest) : (s.wake pid).Paced t now none (n + 4) := by
  obtain ⟨u, hu, -, hpid, ho₁, heq⟩ := ho.wake_eq
  have h₁ := (h.lookUp pid).loosen pid
  have hf₁ := hf.deeds (.lookUp s pid)
  have hdrawn : { s.lookUp pid with rng := (u.spec.run.draw (s.lookUp pid).rng).2 }.Fits longest :=
    { hf₁ with }
  rw [heq]
  exact settle { h₁ with } ho₁ hdrawn hpid rfl
    (Nat.lt_of_lt_of_le Nat.one_pos (Nat.le_max_right _ _)) (hf₁.draw_run_le hu _)
    (hf₁.threads pid u hu).2

/-! ## Threads come and go -/

omit [Random.LawfulDrawSource ρ] in
/-- A new thread is going to wake up. -/
lemma spawn (h : s.Paced t now none n) (spec : ThreadSpec) :
    (s.spawn spec).Paced t now none (n + 5) := by
  obtain ⟨u, -, -, -, hp, -, heq⟩ := s.spawn_eq spec
  have h₁ := h.onHost (f := (·.addProcess spec.pid spec.parent spec.name)) rfl
  have h₂ : { s.onEngine (·.onHost (·.addProcess spec.pid spec.parent spec.name)) with
      rng := (Random.DrawSource.draw64 0 longestDelay s.rng).2 }.Paced t now none n := { h₁ with }
  rw [heq]
  exact (h₂.putThread spec.pid (u := u) (by simp [hp])).scheduleLater _ (by simp) (by simp)
    (by simp) (Nat.le_refl 5)

omit [Random.LawfulDrawSource ρ] in
lemma replace (h : s.Paced t now (some pid) n) (ho : s.Orderly due (some pid)) (u : Thread) :
    (s.replace pid u).Paced t now none (n + 5) := by
  have h₁ := h.withCall (c := .taskExit pid) ho.rests rfl
    (congrArg Host.kicks (s.engine.outcome_taskExit pid).host_eq)
  have h₂ := h₁.onHost (f := (·.removeProcess pid)) rfl
  rw [replace_eq]
  exact (h₂.eraseThread _).spawn _

/-! ## Runs end -/

omit [Random.DrawSource ρ] [Random.LawfulDrawSource ρ] in
/-- A thread has to run on, and waits again. -/
lemma requeue (h : (s.afterRun pid { u with phase := .queued } true).Paced t now (some pid) n)
    (ho : (s.afterRun pid { u with phase := .queued } true).Orderly due (some pid))
    (hpid : u.task.pid = pid) (hready : 0 < u.remaining) :
    (s.requeue pid u).Paced t now none
      (n + (s.onEngine (·.stopping u.task true)).kickPrice pid) :=
  h.await ho (threads_putThread_self s pid { u with phase := .queued }) hready hpid

omit [Random.LawfulDrawSource ρ] in
/-- A thread that is done wakes up again, or the one that takes its place does. -/
lemma retire (h : (s.afterRun pid u false).Paced t now (some pid) n)
    (ho : (s.afterRun pid u false).Orderly due (some pid)) :
    (s.retire pid u).Paced t now none (n + 5) := by
  rcases s.retire_cases pid u with heq | heq
  · rw [heq]
    exact h.replace ho u
  · have h₁ : { s.afterRun pid u false with
        rng := (u.spec.sleep.draw s.rng).2 }.Paced t now (some pid) n := { h with }
    have h₂ := h₁.putThread pid (u := { u with phase := .sleeping }) (by simp)
    have h₃ := h₂.arrive (threads_putThread_self _ _ _) (by simp)
    rw [heq]
    exact h₃.scheduleLater _ (by simp) (by simp) (by simp) (Nat.le_refl 5)

omit [Random.DrawSource ρ] [Random.LawfulDrawSource ρ] in
/-- The thread of a run that ends now may kick a core, and two cores take up work: that is no more
than the run stands for. -/
lemma kickPrice_add_le (h : s.Paced t now moving n) {r : Run} {g : Nat}
    (hrun : s.runOn? cpu = some (r, g)) (hends : s.EndsNow cpu g) {task : Task}
    (hcpu : task.cpu = cpu) (hpid : task.pid = r.pid) (runnable : Bool) :
    (s.onEngine (·.stopping task runnable)).kickPrice r.pid + 2 ≤ s.stake cpu := by
  by_cases hbefore : r.startedAt < s.now
  · rw [stake_of_lt hrun hbefore]
    exact Nat.succ_le_succ (Nat.succ_le_succ ((kickPrice_le _ _).trans (by decide)))
  · -- a run that began now gives way
    have hnow : r.startedAt = s.now := by
      have := h.started cpu r g hrun
      omega
    have hpidrun : s.occupancy cpu = some r.pid := by rw [occupancy, hrun]; rfl
    obtain ⟨p, hp, hurgency⟩ := h.cut cpu r g hrun hnow hends
    obtain rfl : r.pid = p := Option.some.inj (hpidrun.symm.trans hp)
    have hpermits : s.occupancy.Permits t (.stopping task runnable) := by
      show s.occupancy task.cpu = some task.pid
      rw [hcpu, hpid, hp]
    rw [stake_of_endsNow hrun hbefore hends, kickPrice_of_ne]
    show TaskState.urgency ((s.engine.after (.stopping task runnable)).task? r.pid) ≠ .gaming
    rw [h.mirrors.urgency_after hpermits hp]
    exact hurgency

omit [Random.DrawSource ρ] [Random.LawfulDrawSource ρ] in
/-- When the end of a run is kept, what the end and the run counted for is free for what becomes of
the thread. -/
lemma leaveCore {r : Run} {g : Nat} {a : Appointment} {rest : Agenda}
    (h : s.Paced t now none (n + 1)) (hquiet : s.engine.host.kicks = #[])
    (ha : s.agenda.toList.Perm (a :: rest.toList)) (hwhat : a.what = .stop cpu g)
    (hrun : s.runOn? cpu = some (r, g)) {v : Thread} (hcpu : v.task.cpu = cpu)
    (hpid : v.task.pid = r.pid) (runnable : Bool) :
    ∃ m, m + s.stake cpu = n ∧
      (({ s with agenda := rest }.vacate cpu).afterRun r.pid v runnable).Paced t now (some r.pid)
        m := by
  have h₁ := (h.loosen r.pid).putThread r.pid (u := v) (by simp)
  -- the end counts as due until the run is over, so the run is charged before its end
  obtain ⟨m, hm, h₂⟩ := h₁.endOfRun hquiet hrun hcpu hpid runnable
  obtain ⟨k, hk, h₃⟩ := h₂.takeOff ha
  have hweight : a.weight s.now = 1 := by rw [Appointment.weight, hwhat]
  have hk : k + a.weight s.now = m := hk
  have hm : m + s.stake cpu = n + 1 := hm
  exact ⟨k, by omega, h₃⟩

/-- The end of a run falls due.  If the run began earlier it counts for all that may come of it.  If
it began now, its thread has to run on, and gives way, so it kicks nobody. -/
lemma endRun {c : SimCore} {r : Run} {a : Appointment} {rest : Agenda}
    (h : s.Paced t now none (n + 1)) (hquiet : s.engine.host.kicks = #[])
    (ha : s.agenda.toList.Perm (a :: rest.toList)) (hdue : a.due ≤ s.now)
    (hwhat : a.what = .stop cpu c.generation)
    (ho : { s with agenda := rest }.Orderly (some (.stop cpu c.generation)) none)
    (hnew : s.nextPid ∉ s.threads) (hf : s.Fits longest) (hc : s.cores[cpu]? = some c)
    (hr : c.run = some r) : ({ s with agenda := rest }.endRun cpu r).Paced t now none n := by
  obtain ⟨u, hu, hphase, hcpu, hpid, ho₁, hends⟩ := ho.endRun_eq hc hr
  have hrun : s.runOn? cpu = some (r, c.generation) := runOn?_eq_some_iff.2 ⟨c, hc, hr, rfl⟩
  have hends₁ : s.EndsNow cpu c.generation := ⟨a, ha.mem_iff.2 List.mem_cons_self, hdue, hwhat⟩
  have hbusy : 0 < u.remaining := h.ready r.pid u hu (by simp) (by simp [hphase])
  have hf₁ : ({ s with agenda := rest }.vacate cpu).Fits longest := { hf with }
  have hu₁ : ({ s with agenda := rest }.vacate cpu).threads[r.pid]? = some u := hu
  rcases hends with ⟨hmore, heq⟩ | ⟨hdone, heq⟩
  · obtain ⟨m, hm, h₁⟩ := h.leaveCore hquiet ha hwhat hrun
      (v := { u.ranFor (s.now - r.startedAt) with phase := .queued }) hcpu hpid true
    have ho₂ := ho₁.afterRun (t := { u.ranFor (s.now - r.startedAt) with phase := .queued }) hpid
      true
    have h₂ := requeue (u := u.ranFor (s.now - r.startedAt)) h₁ ho₂ hpid hmore
    have ho₃ := ho₁.requeue (t := u.ranFor (s.now - r.startedAt)) hpid
    have hf₃ := hf₁.deeds (.requeue hu₁ (s.now - r.startedAt))
    have hprice := h.kickPrice_add_le hrun hends₁ hcpu hpid true
    rw [heq]
    exact ((h₂.takeUp ho₃ hf₃ cpu).rouse (ho₃.takeUp cpu) (hf₃.deeds (.takeUp _ cpu)) u.task).mono
      (hm ▸ Nat.add_le_add_left hprice m)
  · obtain ⟨m, hm, h₁⟩ := h.leaveCore hquiet ha hwhat hrun (v := u.ranFor (s.now - r.startedAt)) hcpu
      hpid false
    have ho₂ := ho₁.afterRun (t := u.ranFor (s.now - r.startedAt)) hpid false
    have h₂ := retire h₁ ho₂
    have ho₃ := ho₁.retire (t := u.ranFor (s.now - r.startedAt)) hnew (mem_threads_of_eq_some hu)
      hpid
    have hf₃ := hf₁.happens (.retire hu₁ (s.now - r.startedAt))
    -- the thread got something done, so its run did not begin now
    have hbefore : r.startedAt < s.now := by
      have hdone : u.remaining - (s.now - r.startedAt) = 0 := hdone
      omega
    rw [stake_of_lt hrun hbefore] at hm
    rw [heq]
    exact (h₂.takeUp ho₃ hf₃ cpu).mono (Nat.le_of_eq hm)

/-- The end of a run falls due, if the run has not ended before. -/
lemma stop {g : Nat} {a : Appointment} {rest : Agenda} (h : s.Paced t now none (n + 1))
    (hquiet : s.engine.host.kicks = #[]) (ha : s.agenda.toList.Perm (a :: rest.toList))
    (hdue : a.due ≤ s.now) (hwhat : a.what = .stop cpu g)
    (ho : { s with agenda := rest }.Orderly (some (.stop cpu g)) none)
    (hnew : s.nextPid ∉ s.threads) (hf : s.Fits longest) :
    ({ s with agenda := rest }.stop cpu g).Paced t now none n := by
  rcases { s with agenda := rest }.stop_cases cpu g with ⟨r, hrun, heq⟩ | ⟨-, heq⟩
  · obtain ⟨c, hc, hr, rfl⟩ := runOn?_eq_some_iff.1 hrun
    rw [heq]
    exact h.endRun hquiet ha hdue hwhat ho hnew hf hc hr
  · obtain ⟨m, hm, h₁⟩ := h.takeOff ha
    rw [Appointment.weight, hwhat] at hm
    rw [heq]
    exact h₁.mono (Nat.le_of_eq (Nat.succ.inj hm))

end

/-! ## Ticks and kicks -/

/-- A tick that is due counts for itself and for the next one. -/
lemma tick {a : Appointment} {rest : Agenda} (h : s.Paced t now none (n + 1))
    (ha : s.agenda.toList.Perm (a :: rest.toList)) (hdue : a.due ≤ s.now) (hwhat : a.what = .tick)
    (hf : s.Fits longest) : ({ s with agenda := rest }.tick).Paced t now none n := by
  obtain ⟨m, hm, h₁⟩ := h.takeOff ha
  have hweight : a.weight s.now = 2 := by
    rw [Appointment.weight, hwhat]
    exact if_pos hdue
  have hticks : (rest.toList.map (·.what)).count .tick = 0 := by
    have hone := h.ticks
    rw [(ha.map (·.what)).count_eq, List.map_cons, hwhat, List.count_cons_self] at hone
    omega
  obtain ⟨rng, e, he, heq⟩ := { s with agenda := rest }.tick_eq
    (P := fun e => ({ s with agenda := rest, engine := e } : Simulation ρ).Paced t now none m) h₁
    fun e cpu level he => by
      have he₁ := he.onHost (f := (·.setPerf cpu level)) rfl
      exact he₁.withCall (c := .tick cpu) trivial rfl
        (congrArg Host.kicks (Engine.outcome_tick _ cpu).host_eq)
  have h₂ : ({ s with agenda := rest, rng := rng, engine := e } : Simulation ρ).Paced t now none m :=
    { he with }
  have hlater : ¬ s.later tickPeriod ≤ s.now := by
    rw [hf.later_eq hf.period]
    exact Nat.not_le_of_lt (Nat.lt_add_of_pos_right (by decide))
  rw [heq]
  exact (h₂.scheduleLater .tick (by simp) (by simp) (fun _ => hticks)
    (Nat.le_of_eq (if_neg hlater))).mono (by omega)

omit [Random.DrawSource ρ] in
/-- A core that gives way and is kicked ends its run now. -/
lemma heed (h : s.Paced t now moving n) {k : Kick} (hk : s.GivesWay k.cpu) :
    (s.heed k).Paced t now moving (n + 3) := by
  rcases s.heed_cases k with heq | ⟨r, generation, hrun, heq⟩
  · rw [heq]
    exact h.mono (Nat.le_add_right n 3)
  · obtain ⟨c, hc, -, rfl⟩ := runOn?_eq_some_iff.1 hrun
    have hends : ∀ j g, j ≠ k.cpu →
        (s.schedule s.now (.stop k.cpu c.generation)).EndsNow j g → s.EndsNow j g := by
      intro j g hj he
      rcases (endsNow_schedule s s.now _ g).1 he with ⟨-, hstop⟩ | he
      · exact absurd (Occurrence.stop.inj hstop).1.symm hj
      · exact he
    have hsize : (s.schedule s.now (.stop k.cpu c.generation)).cores.size = s.cores.size := rfl
    have hstakes : (s.schedule s.now (.stop k.cpu c.generation)).stakes + 0 ≤ s.stakes + 2 := by
      refine stakes_add_le hsize (Array.getElem?_eq_some_iff.1 hc).1 (fun j hj => ?_)
        (stake_le_add_two rfl rfl)
      exact stake_mono rfl rfl fun g he => hends j g hj he
    rw [heq]
    refine h.schedule _ ?_ ?_ (by simp) (Nat.le_refl 1) hstakes
    · rintro j g hstop -
      exact (Occurrence.stop.inj hstop).1 ▸ hk
    · intro j d g hd hstop
      obtain ⟨rfl, rfl⟩ := Occurrence.stop.inj hstop
      obtain rfl : c = d := Option.some.inj (hc.symm.trans hd)
      exact Nat.le_refl _

omit [Random.DrawSource ρ] in
lemma heedAll (h : s.Paced t now moving n) (ks : List Kick) (hks : ∀ k ∈ ks, s.GivesWay k.cpu) :
    (ks.foldl Simulation.heed s).Paced t now moving (n + 3 * ks.length) := by
  induction ks generalizing s n with
  | nil => exact h
  | cons k ks ih =>
    have hgives : ∀ j, s.GivesWay j → (s.heed k).GivesWay j := by
      intro j hj
      rcases s.heed_cases k with heq | ⟨r, generation, -, heq⟩
      · rw [heq]
        exact hj
      · rw [heq]
        exact hj
    have h₁ := h.heed (hks k List.mem_cons_self)
    have h₂ := ih h₁ fun k' hk' => hgives _ (hks k' (List.mem_cons_of_mem _ hk'))
    rw [List.length_cons]
    exact h₂.mono (by omega)

omit [Random.DrawSource ρ] in
/-- Kicks that are heeded count as ends of runs instead. -/
lemma heedKicks (h : s.Paced t now moving n) : s.heedKicks.Paced t now moving n := by
  have hgives : ∀ j, s.GivesWay j →
      (s.onEngine (·.onHost fun h => h.takeKicks.2)).GivesWay j := fun j hj =>
    hj.after h.mirrors (c := .platform s.engine.host.takeKicks.2) trivial rfl rfl
  have hcharge := h.charge_le
  unfold charge at hcharge
  have h₁ : (s.onEngine (·.onHost fun h => h.takeKicks.2)).Paced t now moving
      (n - 3 * s.engine.host.kicks.size) :=
    { h with
      mirrors := h.mirrors.after (c := .platform s.engine.host.takeKicks.2) trivial
      kicked := fun k hk => absurd hk (Array.not_mem_empty k)
      cut := fun cpu r g hr hnow he => hgives cpu (h.cut cpu r g hr hnow he)
      charge_le := by
        unfold charge
        change s.expected + s.stakes + 3 * 0 ≤ _
        omega }
  have h₂ := h₁.heedAll s.engine.host.kicks.toList fun k hk =>
    hgives _ (h.kicked k (Array.mem_toList_iff.1 hk))
  rw [Array.length_toList] at h₂
  exact h₂.mono (by omega)

/-! ## Everything that falls due -/

variable [Random.LawfulDrawSource ρ]

/-- What happens uses up charge. -/
lemma happen {a : Appointment} {rest : Agenda} (h : s.Paced t now none (n + 1))
    (hquiet : s.engine.host.kicks = #[]) (ha : s.agenda.toList.Perm (a :: rest.toList))
    (hdue : a.due ≤ s.now) (ho : { s with agenda := rest }.Orderly (some a.what) none)
    (hnew : s.nextPid ∉ s.threads) (hf : s.Fits longest) :
    ({ s with agenda := rest }.happen a.what).Paced t now none n := by
  cases hwhat : a.what with
  | wake pid =>
    obtain ⟨m, hm, h₁⟩ := h.takeOff ha
    rw [Appointment.weight, hwhat] at hm
    exact (h₁.wake (hwhat ▸ ho) { hf with }).mono (Nat.le_of_eq (Nat.succ.inj hm))
  | stop cpu g => exact h.stop hquiet ha hdue hwhat (hwhat ▸ ho) hnew hf
  | tick => exact h.tick ha hdue hwhat hf

/-- Keeping the first appointment uses up charge, unless the clock moves on. -/
lemma keep {a : Appointment} {rest : Agenda} (h : s.Paced t now none n)
    (hquiet : s.engine.host.kicks = #[]) (ha : s.agenda.toList.Perm (a :: rest.toList))
    (hle : now ≤ a.due) (ho : (s.comeTo a rest).Orderly (some a.what) none)
    (hnew : s.nextPid ∉ s.threads) (hf : (s.comeTo a rest).Fits longest) :
    ∃ m, m < n + (6 * t.nrCpus + 1) * (a.due - now) ∧
      ({ s with agenda := rest }.keep a).Paced t a.due none m := by
  have h₁ := h.advance hle
  -- the appointment itself counts, so something is left to be used up
  obtain ⟨m, hm⟩ : ∃ m, n + (6 * t.nrCpus + 1) * (a.due - now) = m + 1 := by
    obtain ⟨k, hk, -⟩ := h₁.takeOff ha
    refine Nat.exists_eq_succ_of_ne_zero fun hzero => ?_
    have hpos := a.weight_pos a.due
    have hk : k + a.weight a.due = _ := hk
    omega
  rw [hm] at h₁ ⊢
  have h₂ := h₁.happen hquiet ha (Nat.le_refl _) ho hnew { hf with }
  exact ⟨m, Nat.lt_succ_self m, { h₂.heedKicks with }⟩

end Paced

end CoreSteer.Simulation
