import CoreSteer.Proofs.Simulation.Parts
/-!
# Every thread is in one place

A thread sleeps, and is going to wake up once; or it waits, and has one entry in the dispatch
queues; or it runs, on one core.  While a thread goes from one place to another it is in none: it
is *moving*.  The invariant `Simulation.Orderly` says so of all threads but one that is moving, and
this file has one lemma for each of the small changes from which all that happens in a simulation
is made up.

An appointment that was taken off the agenda because it falls due still counts as pending until
something is done about it; so a thread sleeps until it is woken up, and a run has an end ahead
until it ends.
-/
namespace CoreSteer.Simulation

variable {ρ : Type}

/-! ## Small facts -/

lemma eq_true_of_toNat_pos {b : Bool} (h : 0 < b.toNat) : b = true := by
  cases b with
  | false => cases h
  | true => rfl

/-! ## Cores are tended -/

/-- Between two changes nothing that was put somewhere for a core is left there, and a core that counts
as idle runs nothing. -/
structure Tended (s : Simulation ρ) : Prop where
  /-- No thread that was put straight on a core is left there. -/
  direct : ∀ (cpu : Nat) (c : SimCore), s.cores[cpu]? = some c → c.direct = []
  /-- A core that counts as idle exists and runs nothing. -/
  free : ∀ cpu ∈ s.engine.host.idle, s.isFree cpu = true
  /-- All that the engine placed was taken up. -/
  placements : s.engine.host.placements = #[]

namespace Tended

variable {s : Simulation ρ} {cpu : Nat}

/-- A change of the engine that makes no core idle and places nobody. -/
lemma withEngine (h : s.Tended) {e : Engine} (hi : ∀ cpu ∈ e.host.idle, cpu ∈ s.engine.host.idle)
    (hp : e.host.placements = #[]) : { s with engine := e }.Tended :=
  { h with
    free := fun cpu hcpu => h.free cpu (hi cpu hcpu)
    placements := hp }

/-- A core that runs nothing goes idle. -/
lemma rest (h : s.Tended) (hf : s.isFree cpu = true) : (s.rest cpu).Tended :=
  { h with
    free := fun j hj => by
      rcases CpuMask.mem_set.1 hj with hj | ⟨-, rfl⟩
      · exact h.free j hj
      · exact hf }

/-- A core is written, but not what was put straight on it. -/
lemma modifyCore (h : s.Tended) {f : SimCore → SimCore} (hd : ∀ c, (f c).direct = c.direct)
    (hf : ∀ c, cpu ∈ s.engine.host.idle → (f c).run = none) : (s.modifyCore cpu f).Tended where
  direct j d hd' := by
    rw [cores_modifyCore] at hd'
    split at hd'
    · obtain ⟨c, hc, rfl⟩ := Option.map_eq_some_iff.1 hd'
      exact (hd c).trans (h.direct j c hc)
    · exact h.direct j d hd'
  free j hj := by
    obtain ⟨d, hd', hfree⟩ := isFree_iff.1 (h.free j hj)
    rw [isFree_iff, cores_modifyCore, hd']
    split
    · next hjc => exact ⟨f d, rfl, hf d (hjc ▸ hj)⟩
    · exact ⟨d, rfl, hfree⟩
  placements := h.placements

/-- The run of a core ends. -/
lemma vacate (h : s.Tended) (cpu : Nat) : (s.vacate cpu).Tended :=
  h.modifyCore (fun _ => rfl) fun _ _ => rfl

/-- A core that does not count as idle begins a run. -/
lemma startRun (h : s.Tended) (hidle : cpu ∉ s.engine.host.idle) (r : Run) (generation : Nat) :
    (s.modifyCore cpu fun c => { c with run := some r, generation := generation }).Tended :=
  h.modifyCore (fun _ => rfl) fun _ hmem => absurd hmem hidle

/-- On a core that is tended to, the next thread comes from the dispatch queues. -/
lemma nextFor_eq (h : s.Tended) (cpu : Nat) :
    s.nextFor cpu = ((s.engine.dispatch cpu).1.map fun w => (w.pid, w.slice),
      { s with engine := (s.engine.dispatch cpu).2 }) := by
  have hdirect : (s.cores[cpu]?.map (·.direct)).getD [] = [] := by
    cases hc : s.cores[cpu]? with
    | none => rfl
    | some c => exact h.direct cpu c hc
  rcases s.nextFor_cases cpu with ⟨next, rest, hnext, -⟩ | ⟨-, heq⟩
  · rw [hdirect] at hnext
    cases hnext
  · exact heq

end Tended

/-! ## The invariant -/

/-- What is going to happen, what falls due now included. -/
def pending (s : Simulation ρ) (due : Option Occurrence) : List Occurrence :=
  due.toList ++ s.agenda.toList.map (·.what)

lemma pending_schedule (s : Simulation ρ) (due : Option Occurrence) (time : Nat)
    (what : Occurrence) : ((s.schedule time what).pending due).Perm (what :: s.pending due) :=
  (((s.agenda.toList_add time what).map _).append_left _).trans List.perm_middle

/-- A thread is in a phase, and not moving. -/
def isIn (s : Simulation ρ) (moving : Option Nat) (phase : Phase) (pid : Nat) : Bool :=
  decide (moving ≠ some pid) && s.threads[pid]?.any (·.phase == phase)

lemma isIn_iff {s : Simulation ρ} {moving : Option Nat} {phase : Phase} {pid : Nat} :
    s.isIn moving phase pid = true ↔
      moving ≠ some pid ∧ ∃ t : Thread, s.threads[pid]? = some t ∧ t.phase = phase := by
  simp [isIn, Option.any_eq_true]

/-- A thread that is not moving any more is in its phase. -/
lemma toNat_isIn {s : Simulation ρ} {pid : Nat} {t : Thread} (ht : s.threads[pid]? = some t)
    (phase : Phase) (p : Nat) :
    (s.isIn none phase p).toNat =
      (s.isIn (some pid) phase p).toNat + if pid = p ∧ t.phase = phase then 1 else 0 := by
  by_cases hp : pid = p
  · subst hp
    by_cases hphase : t.phase = phase <;> simp [isIn, ht, hphase]
  · simp [isIn, hp]

lemma toNat_isIn_of_eq {s : Simulation ρ} {pid : Nat} {t : Thread}
    (ht : s.threads[pid]? = some t) {phase : Phase} (hp : t.phase = phase) (p : Nat) :
    (s.isIn none phase p).toNat =
      (s.isIn (some pid) phase p).toNat + if pid = p then 1 else 0 := by
  rw [toNat_isIn ht]
  simp [hp]

lemma toNat_isIn_of_ne {s : Simulation ρ} {pid : Nat} {t : Thread}
    (ht : s.threads[pid]? = some t) {phase : Phase} (hp : t.phase ≠ phase) (p : Nat) :
    (s.isIn none phase p).toNat = (s.isIn (some pid) phase p).toNat := by
  rw [toNat_isIn ht]
  simp [hp]

/-- Every thread, but for one that may be moving, is in the place where its phase says it is. -/
structure Orderly (due : Option Occurrence) (moving : Option Nat) (s : Simulation ρ) : Prop
    extends Tended s where
  /-- A thread that sleeps is going to wake up once, and no other is. -/
  wakes : ∀ pid, (s.pending due).count (.wake pid) = (s.isIn moving .sleeping pid).toNat
  /-- A thread that waits has one entry in the dispatch queues, and no other has any. -/
  entries : ∀ pid,
    (s.engine.queues.entries.map (·.pid)).count pid = (s.isIn moving .queued pid).toNat
  /-- A core that runs something runs a thread that runs on it. -/
  running : ∀ (cpu : Nat) (c : SimCore) (r : Run), s.cores[cpu]? = some c → c.run = some r →
    moving ≠ some r.pid ∧
      ∃ t : Thread, s.threads[r.pid]? = some t ∧ t.phase = .running ∧ t.task.cpu = cpu
  /-- A thread that runs does so on its core. -/
  onCore : ∀ (pid : Nat) (t : Thread), s.threads[pid]? = some t → moving ≠ some pid →
    t.phase = .running →
      ∃ (c : SimCore) (r : Run), s.cores[t.task.cpu]? = some c ∧ c.run = some r ∧ r.pid = pid
  /-- The run of a core is going to end. -/
  stops : ∀ (cpu : Nat) (c : SimCore) (r : Run), s.cores[cpu]? = some c → c.run = some r →
    .stop cpu c.generation ∈ s.pending due
  /-- The engine knows each thread by its id. -/
  known : ∀ (pid : Nat) (t : Thread), s.threads[pid]? = some t → t.task.pid = pid

namespace Orderly

variable {s : Simulation ρ} {due : Option Occurrence} {moving : Option Nat} {pid cpu : Nat}
  {t : Thread}

/-! ## Changes that move nobody -/

/-- A change of the engine that leaves the queues alone, makes no core idle and places nobody. -/
lemma withEngine (h : s.Orderly due moving) {e : Engine} (hq : e.queues = s.engine.queues)
    (hi : ∀ cpu ∈ e.host.idle, cpu ∈ s.engine.host.idle) (hp : e.host.placements = #[]) :
    { s with engine := e }.Orderly due moving :=
  { h.toTended.withEngine hi hp, h with entries := fun pid => hq ▸ h.entries pid }

/-- A core that runs nothing goes idle. -/
lemma rest (h : s.Orderly due moving) (hf : s.isFree cpu = true) :
    (s.rest cpu).Orderly due moving :=
  { h.toTended.rest hf, h with }

/-- Something is put on the agenda that wakes up nobody. -/
lemma schedule (h : s.Orderly due moving) (time : Nat) {what : Occurrence}
    (hw : ∀ pid, what ≠ .wake pid) : (s.schedule time what).Orderly due moving :=
  { h with
    wakes := fun pid => by
      rw [(s.pending_schedule due time what).count_eq, List.count_cons_of_ne (hw pid)]
      exact h.wakes pid
    stops := fun cpu c r hc hr =>
      (s.pending_schedule due time what).mem_iff.2 (List.mem_cons_of_mem _ (h.stops cpu c r hc hr)) }

/-- What falls due wakes up nobody and ends no run. -/
lemma pass {what : Occurrence} (h : s.Orderly (some what) moving)
    (hw : ∀ pid, what ≠ .wake pid)
    (hs : ∀ (cpu : Nat) (c : SimCore) (r : Run), s.cores[cpu]? = some c → c.run = some r →
      what ≠ .stop cpu c.generation) : s.Orderly none moving :=
  { h with
    wakes := fun pid => by
      rw [← h.wakes pid]
      exact (List.count_cons_of_ne (hw pid)).symm
    stops := fun cpu c r hc hr => by
      rcases List.mem_cons.1 (h.stops cpu c r hc hr) with he | hm
      · exact absurd he.symm (hs cpu c r hc hr)
      · exact hm }

/-- A change of a thread that says the same of its place. -/
lemma keepThread (h : s.Orderly due moving) (ht : s.threads[pid]? = some t) {t' : Thread}
    (hp : t'.phase = t.phase) (hc : t'.task = t.task) :
    (s.putThread pid t').Orderly due moving := by
  have hin : ∀ phase p, (s.putThread pid t').isIn moving phase p = s.isIn moving phase p := by
    intro phase p
    by_cases hpid : p = pid
    · simp [isIn, hpid, ht, hp]
    · simp [isIn, hpid]
  refine { h with
    wakes := fun p => by rw [hin]; exact h.wakes p
    entries := fun p => by rw [hin]; exact h.entries p
    running := fun cpu c r hcore hr => ?_
    onCore := fun p u hu hm hrun => ?_
    known := fun p u hu => ?_ }
  · obtain ⟨hm, u, hu, hphase, hcpu⟩ := h.running cpu c r hcore hr
    refine ⟨hm, ?_⟩
    rw [threads_putThread]
    split
    · next hrp =>
      rw [hrp, ht] at hu
      cases hu
      exact ⟨t', rfl, hp.trans hphase, hc ▸ hcpu⟩
    · exact ⟨u, hu, hphase, hcpu⟩
  · rw [threads_putThread] at hu
    split at hu
    · next hpp =>
      subst hpp
      cases hu
      rw [hc]
      exact h.onCore p t ht hm (hp ▸ hrun)
    · exact h.onCore p u hu hm hrun
  · rw [threads_putThread] at hu
    split at hu
    · next hpp =>
      subst hpp
      cases hu
      rw [hc]
      exact h.known p t ht
    · exact h.known p u hu

/-- Whatever is said of a thread that is moving. -/
lemma putMoving (h : s.Orderly due (some pid)) (hp : t.task.pid = pid) :
    (s.putThread pid t).Orderly due (some pid) := by
  have hin : ∀ phase p,
      (s.putThread pid t).isIn (some pid) phase p = s.isIn (some pid) phase p := by
    intro phase p
    by_cases hpid : p = pid
    · simp [isIn, hpid]
    · simp [isIn, hpid]
  refine { h with
    wakes := fun p => by rw [hin]; exact h.wakes p
    entries := fun p => by rw [hin]; exact h.entries p
    running := fun cpu c r hcore hr => ?_
    onCore := fun p u hu hm hrun => ?_
    known := fun p u hu => ?_ }
  · obtain ⟨hm, u, hu, hphase, hcpu⟩ := h.running cpu c r hcore hr
    have hne : r.pid ≠ pid := fun he => hm (congrArg some he.symm)
    refine ⟨hm, u, ?_, hphase, hcpu⟩
    rw [threads_putThread, if_neg hne]
    exact hu
  · have hne : p ≠ pid := fun he => hm (congrArg some he.symm)
    rw [threads_putThread, if_neg hne] at hu
    exact h.onCore p u hu hm hrun
  · rw [threads_putThread] at hu
    split at hu
    · next hpp =>
      cases hu
      exact hp.trans hpp.symm
    · exact h.known p u hu

/-! ## Leaving a place -/

/-- A thread that does not run is on no core. -/
lemma run_ne (h : s.Orderly due moving) (ht : s.threads[pid]? = some t)
    (hp : t.phase ≠ .running) {c : SimCore} {r : Run} (hc : s.cores[cpu]? = some c)
    (hr : c.run = some r) : r.pid ≠ pid := by
  rintro rfl
  obtain ⟨-, u, hu, hphase, -⟩ := h.running cpu c r hc hr
  rw [ht] at hu
  cases hu
  exact hp hphase

/-- When a thread that does not run is moving, the cores run the same threads. -/
lemma running_of_moving (h : s.Orderly due none) (ht : s.threads[pid]? = some t)
    (hp : t.phase ≠ .running) {c : SimCore} {r : Run} (hc : s.cores[cpu]? = some c)
    (hr : c.run = some r) :
    some pid ≠ some r.pid ∧
      ∃ t : Thread, s.threads[r.pid]? = some t ∧ t.phase = .running ∧ t.task.cpu = cpu :=
  ⟨fun he => h.run_ne ht hp hc hr (Option.some.inj he).symm, (h.running cpu c r hc hr).2⟩

/-- A thread whose time to wake up has come sleeps; from now on it is moving. -/
lemma wakeUp (h : s.Orderly (some (.wake pid)) none) :
    (∃ t : Thread, s.threads[pid]? = some t ∧ t.phase = .sleeping) ∧
      s.Orderly none (some pid) := by
  -- the time to wake up that has come is the one that a sleeping thread has ahead
  have hcount : ∀ p, (s.pending none).count (.wake p) + (if pid = p then 1 else 0) =
      (s.isIn none .sleeping p).toNat := by
    intro p
    rw [← h.wakes p]
    by_cases hp : pid = p
    · subst hp
      rw [if_pos rfl]
      exact List.count_cons_self.symm
    · rw [if_neg hp, Nat.add_zero]
      exact (List.count_cons_of_ne fun he => hp (Occurrence.wake.inj he)).symm
  have hpos : 0 < (s.isIn none .sleeping pid).toNat := by
    rw [← hcount pid, if_pos rfl]
    exact Nat.succ_pos _
  obtain ⟨-, t, ht, hphase⟩ := isIn_iff.1 (eq_true_of_toNat_pos hpos)
  refine ⟨⟨t, ht, hphase⟩, { h with
    wakes := fun p => ?_
    entries := fun p => (h.entries p).trans (toNat_isIn_of_ne ht (by simp [hphase]) p)
    running := fun cpu c r hc hr => h.running_of_moving ht (by simp [hphase]) hc hr
    onCore := fun p u hu _ hrun => h.onCore p u hu (by simp) hrun
    stops := fun cpu c r hc hr => ?_ }⟩
  · exact Nat.add_right_cancel ((hcount p).trans (toNat_isIn_of_eq ht hphase p))
  · rcases List.mem_cons.1 (h.stops cpu c r hc hr) with he | hm
    · cases he
    · exact hm

/-- A thread that is taken out of a dispatch queue waits until then. -/
lemma handOut (h : s.Orderly due none) {w : Waiting} {e : Engine}
    (hq : s.engine.queues.entries.Perm (w :: e.queues.entries))
    (hi : ∀ cpu ∈ e.host.idle, cpu ∈ s.engine.host.idle) (hp : e.host.placements = #[]) :
    (∃ t : Thread, s.threads[w.pid]? = some t ∧ t.phase = .queued) ∧
      { s with engine := e }.Orderly due (some w.pid) := by
  -- the entry that is taken out is the one that its thread has while it waits
  have hcount : ∀ p, (e.queues.entries.map (·.pid)).count p + (if w.pid = p then 1 else 0) =
      (s.isIn none .queued p).toNat := by
    intro p
    rw [← h.entries p, (hq.map (·.pid)).count_eq, List.map_cons, List.count_cons]
    simp
  have hpos : 0 < (s.isIn none .queued w.pid).toNat := by
    rw [← hcount w.pid, if_pos rfl]
    exact Nat.succ_pos _
  obtain ⟨-, t, ht, hphase⟩ := isIn_iff.1 (eq_true_of_toNat_pos hpos)
  refine ⟨⟨t, ht, hphase⟩, { h.toTended.withEngine hi hp, h with
    wakes := fun p => (h.wakes p).trans (toNat_isIn_of_ne ht (by simp [hphase]) p)
    entries := fun p => ?_
    running := fun cpu c r hc hr => h.running_of_moving ht (by simp [hphase]) hc hr
    onCore := fun p u hu _ hrun => h.onCore p u hu (by simp) hrun }⟩
  exact Nat.add_right_cancel ((hcount p).trans (toNat_isIn_of_eq ht hphase p))

/-- A run whose end has come ends; its thread is moving from now on. -/
lemma endOfRun {c : SimCore} {r : Run} (h : s.Orderly (some (.stop cpu c.generation)) none)
    (hc : s.cores[cpu]? = some c) (hr : c.run = some r) :
    (∃ t : Thread, s.threads[r.pid]? = some t ∧ t.phase = .running ∧ t.task.cpu = cpu) ∧
      (s.vacate cpu).Orderly none (some r.pid) := by
  obtain ⟨-, t, ht, hphase, hcpu⟩ := h.running cpu c r hc hr
  -- the appointment that falls due wakes up nobody, and the other cores run what they ran
  have hwakes : ∀ p, (s.pending (some (.stop cpu c.generation))).count (.wake p) =
      (s.pending none).count (.wake p) := fun p => List.count_cons_of_ne (by simp)
  have hcore : ∀ (j : Nat) (d : SimCore) (q : Run),
      (s.vacate cpu).cores[j]? = some d → d.run = some q → j ≠ cpu ∧ s.cores[j]? = some d := by
    intro j d q hd hq
    rw [vacate, cores_modifyCore] at hd
    split at hd
    · next hj =>
      subst hj
      rw [hc] at hd
      cases hd
      cases hq
    · next hj => exact ⟨hj, hd⟩
  refine ⟨⟨t, ht, hphase, hcpu⟩, { h.toTended.vacate cpu, h with
    wakes := fun p => ?_
    entries := fun p => (h.entries p).trans (toNat_isIn_of_ne ht (by simp [hphase]) p)
    running := fun j d q hd hq => ?_
    onCore := fun p u hu hm hrun => ?_
    stops := fun j d q hd hq => ?_ }⟩
  · exact (hwakes p).symm.trans ((h.wakes p).trans (toNat_isIn_of_ne ht (by simp [hphase]) p))
  · obtain ⟨hj, hd⟩ := hcore j d q hd hq
    obtain ⟨-, u, hu, huphase, hucpu⟩ := h.running j d q hd hq
    refine ⟨fun he => hj ?_, u, hu, huphase, hucpu⟩
    rw [← Option.some.inj he, ht] at hu
    cases hu
    exact hucpu.symm.trans hcpu
  · -- a thread on this core would be the one whose run ends
    obtain ⟨d, q, hd, hq, rfl⟩ := h.onCore p u hu (by simp) hrun
    have hne : u.task.cpu ≠ cpu := by
      intro he
      rw [he, hc] at hd
      cases hd
      rw [hr] at hq
      exact hm (congrArg (some ·.pid) (Option.some.inj hq))
    refine ⟨d, q, ?_, hq, rfl⟩
    rw [vacate, cores_modifyCore, if_neg hne]
    exact hd
  · obtain ⟨hj, hd⟩ := hcore j d q hd hq
    rcases List.mem_cons.1 (h.stops j d q hd hq) with he | hm
    · exact absurd (Occurrence.stop.inj he).1 hj
    · exact hm

/-- An id that no thread has is free to move in. -/
lemma newcomer (h : s.Orderly due none) (hn : s.threads[pid]? = none) :
    s.Orderly due (some pid) := by
  have hin : ∀ phase p, s.isIn none phase p = s.isIn (some pid) phase p := by
    intro phase p
    by_cases hp : pid = p
    · subst hp
      simp [isIn, hn]
    · simp [isIn, hp]
  refine { h with
    wakes := fun p => hin .sleeping p ▸ h.wakes p
    entries := fun p => hin .queued p ▸ h.entries p
    running := fun cpu c r hc hr => ?_
    onCore := fun p u hu _ hrun => h.onCore p u hu (by simp) hrun }
  obtain ⟨-, u, hu, hrest⟩ := h.running cpu c r hc hr
  refine ⟨fun he => ?_, u, hu, hrest⟩
  rw [← Option.some.inj he, hn] at hu
  cases hu

/-! ## Coming to a place -/

/-- While a thread that does not run is moving, all that run are on their cores. -/
lemma onCore_of_moving (h : s.Orderly due (some pid)) (ht : s.threads[pid]? = some t)
    (hp : t.phase ≠ .running) {p : Nat} {u : Thread} (hu : s.threads[p]? = some u)
    (hrun : u.phase = .running) :
    ∃ (c : SimCore) (r : Run), s.cores[u.task.cpu]? = some c ∧ c.run = some r ∧ r.pid = p := by
  refine h.onCore p u hu (fun he => ?_) hrun
  rw [← Option.some.inj he, ht] at hu
  cases hu
  exact hp hrun

/-- A thread goes to sleep, and its time to wake up is put on the agenda. -/
lemma fallAsleep (h : s.Orderly due (some pid)) (ht : s.threads[pid]? = some t)
    (hp : t.phase = .sleeping) (time : Nat) :
    (s.schedule time (.wake pid)).Orderly due none := by
  have hperm := s.pending_schedule due time (.wake pid)
  refine { h with
    wakes := fun p => ?_
    entries := fun p => (h.entries p).trans (toNat_isIn_of_ne ht (by simp [hp]) p).symm
    running := fun cpu c r hc hr => ⟨by simp, (h.running cpu c r hc hr).2⟩
    onCore := fun p u hu _ hrun => h.onCore_of_moving ht (by simp [hp]) hu hrun
    stops := fun cpu c r hc hr =>
      hperm.mem_iff.2 (List.mem_cons_of_mem _ (h.stops cpu c r hc hr)) }
  · refine Eq.trans ?_ (toNat_isIn_of_eq ht hp p).symm
    rw [hperm.count_eq, List.count_cons, h.wakes p]
    simp

/-- A thread comes to wait, and gets an entry in a dispatch queue. -/
lemma await (h : s.Orderly due (some pid)) (ht : s.threads[pid]? = some t)
    (hp : t.phase = .queued) {task : Task} (hpid : task.pid = pid) :
    (s.await task).Orderly due none := by
  obtain ⟨id, kicks, ho⟩ := s.engine.outcome_enqueue task
  have hentries : (s.await task).engine.queues.entries.Perm
      (⟨task.pid, s.engine.keyFor task, s.engine.tunables.load.slice, s.engine.queues.arrivals⟩ ::
        s.engine.queues.entries) := by
    show (s.engine.enqueue task).queues.entries.Perm _
    rw [ho.queues_eq]
    exact DispatchQueues.entries_insert _ _ _ _ _
  have hhost : (s.engine.enqueue task).host = { s.engine.host with kicks := kicks } := ho.host_eq
  have htended : (s.await task).Tended :=
    h.toTended.withEngine (fun cpu hcpu => by rw [hhost] at hcpu; exact hcpu)
      (by rw [hhost]; exact h.placements)
  refine { htended, h with
    wakes := fun p => (h.wakes p).trans (toNat_isIn_of_ne ht (by simp [hp]) p).symm
    entries := fun p => ?_
    running := fun cpu c r hc hr => ⟨by simp, (h.running cpu c r hc hr).2⟩
    onCore := fun p u hu _ hrun => h.onCore_of_moving ht (by simp [hp]) hu hrun }
  · refine Eq.trans ?_ (toNat_isIn_of_eq ht hp p).symm
    rw [(hentries.map (·.pid)).count_eq, List.map_cons, List.count_cons, h.entries p, hpid]
    simp

/-- A thread comes to run on a core that runs nothing, and the end of the run is put on the
agenda. -/
lemma startRun (h : s.Orderly due (some pid)) (ht : s.threads[pid]? = some t)
    (hp : t.phase = .running) (hcpu : t.task.cpu = cpu) (hfree : s.isFree cpu = true)
    (hidle : cpu ∉ s.engine.host.idle) {r : Run} (hr : r.pid = pid) (generation time : Nat) :
    ((s.modifyCore cpu fun c => { c with run := some r, generation := generation }).schedule time
      (.stop cpu generation)).Orderly due none := by
  obtain ⟨c, hc, hnone⟩ := isFree_iff.1 hfree
  have hperm := s.pending_schedule due time (.stop cpu generation)
  have hcore : ∀ j : Nat, (s.modifyCore cpu fun c =>
      { c with run := some r, generation := generation }).cores[j]? =
        if j = cpu then some { c with run := some r, generation := generation }
        else s.cores[j]? := by
    intro j
    rw [cores_modifyCore]
    split
    · next hj => rw [hj, hc, Option.map_some]
    · rfl
  refine { h.toTended.startRun hidle r generation, h with
    wakes := fun p => ?_
    entries := fun p => (h.entries p).trans (toNat_isIn_of_ne ht (by simp [hp]) p).symm
    running := fun j d q hd hq => ⟨by simp, ?_⟩
    onCore := fun p u hu _ hrun => ?_
    stops := fun j d q hd hq => ?_ }
  · refine Eq.trans ?_ (toNat_isIn_of_ne ht (by simp [hp]) p).symm
    refine (hperm.count_eq _).trans ?_
    rw [List.count_cons_of_ne (by simp)]
    exact h.wakes p
  · have hd := (hcore j).symm.trans hd
    split at hd
    · next hj =>
      cases hd
      cases hq
      exact ⟨t, hr ▸ ht, hp, hcpu.trans hj.symm⟩
    · exact (h.running j d q hd hq).2
  · -- the core ran nothing, so no other thread was on it
    show ∃ d q, (s.modifyCore cpu _).cores[u.task.cpu]? = some d ∧ d.run = some q ∧ q.pid = p
    by_cases hpp : p = pid
    · subst hpp
      obtain rfl : t = u := Option.some.inj (ht.symm.trans hu)
      rw [hcore, if_pos hcpu]
      exact ⟨_, r, rfl, rfl, hr⟩
    · obtain ⟨d, q, hd, hq, hqp⟩ := h.onCore p u hu (fun he => hpp (Option.some.inj he).symm) hrun
      have hne : u.task.cpu ≠ cpu := by
        intro he
        rw [he, hc] at hd
        cases hd
        rw [hnone] at hq
        cases hq
      rw [hcore, if_neg hne]
      exact ⟨d, q, hd, hq, hqp⟩
  · have hd := (hcore j).symm.trans hd
    refine hperm.mem_iff.2 ?_
    split at hd
    · next hj =>
      cases hd
      rw [hj]
      exact List.mem_cons_self
    · exact List.mem_cons_of_mem _ (h.stops j d q hd hq)

/-- A thread that is moving leaves the simulation, and the dispatch queues are rid of it. -/
lemma leave (h : s.Orderly due (some pid)) {e : Engine} (next : Nat)
    (hq : e.queues.entries.Perm (s.engine.queues.entries.filter (·.pid != pid)))
    (hi : ∀ cpu ∈ e.host.idle, cpu ∈ s.engine.host.idle) (hp : e.host.placements = #[]) :
    { s with
      engine := e, threads := s.threads.erase pid, nextPid := next }.Orderly due none := by
  have hin : ∀ phase p, ({ s with
      engine := e, threads := s.threads.erase pid, nextPid := next }).isIn none phase p =
        s.isIn (some pid) phase p := by
    intro phase p
    by_cases hpp : p = pid
    · simp [isIn, hpp]
    · simp [isIn, threads_erase, hpp, Ne.symm hpp]
  refine { h.toTended.withEngine hi hp, h with
    wakes := fun p => by rw [hin]; exact h.wakes p
    entries := fun p => ?_
    running := fun cpu c r hc hr => ⟨by simp, ?_⟩
    onCore := fun p u hu _ hrun => ?_
    known := fun p u hu => ?_ }
  · -- the thread that is moving had no entry, and the others keep theirs
    rw [hin, (hq.map (·.pid)).count_eq]
    by_cases hpp : p = pid
    · subst hpp
      rw [List.count_eq_zero.2 (by simp)]
      simp [isIn]
    · rw [← h.entries p, List.count_eq_countP, List.count_eq_countP, List.countP_map,
        List.countP_map, List.countP_filter]
      refine List.countP_congr fun w _ => ?_
      simp only [Function.comp_apply, Bool.and_eq_true, beq_iff_eq, bne_iff_ne, ne_eq,
        and_iff_left_iff_imp]
      rintro rfl
      exact hpp
  · obtain ⟨hm, u, hu, hrest⟩ := h.running cpu c r hc hr
    have hne : r.pid ≠ pid := fun he => hm (congrArg some he.symm)
    exact ⟨u, ((s.threads_erase pid r.pid).trans (if_neg hne)).trans hu, hrest⟩
  · have hu := (s.threads_erase pid p).symm.trans hu
    split at hu
    · cases hu
    · next hpp => exact h.onCore p u hu (fun he => hpp (Option.some.inj he).symm) hrun
  · have hu := (s.threads_erase pid p).symm.trans hu
    split at hu
    · cases hu
    · exact h.known p u hu

end Orderly

end CoreSteer.Simulation
