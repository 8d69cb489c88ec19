import CoreSteer.Proofs.Simulation.Moves
/-!
# How long runs last

A thread that is awake owes the time that it has still to run, and keeps the slice with which it was
inserted until it is inserted again.  A run that begins gets an end on the agenda, after the time that
its thread owes or after its slice, whichever is shorter.  Kicks put further ends on the agenda, for
now, and whatever ends a run is kept before the end that the run began with.  So no run is longer
than its thread owes, nor than its slice.

The invariant `Simulation.Timed` says so for given debts and slices of all threads.  Only two things
change a debt: a thread that wakes up draws a new one (`Timed.wake`), and a run that ends pays its
length off (`Timed.endRun`).  Whatever else happens, a core that runs something goes on with it.
-/
namespace CoreSteer

/-- How long a thread has still to run, if it is awake. -/
def Thread.debt? (t : Thread) : Option Nat :=
  if t.phase = .sleeping then none else some t.remaining

lemma Thread.debt?_eq_none {t : Thread} (h : t.phase = .sleeping) : t.debt? = none := if_pos h

lemma Thread.debt?_eq_some {t : Thread} (h : t.phase ≠ .sleeping) : t.debt? = some t.remaining :=
  if_neg h

namespace Simulation

variable {ρ : Type} {s : Simulation ρ} {due : Option Occurrence} {pid cpu n : Nat} {t : Thread}
  {debts : Nat → Option Nat} {slices : Nat → Nat} {before : Nat → Option (Run × Nat)}

/-- How long a thread has still to run, if there is one under this id and it is awake. -/
def debt? (s : Simulation ρ) (pid : Nat) : Option Nat := s.threads[pid]?.bind Thread.debt?

lemma debt?_putThread (s : Simulation ρ) (pid p : Nat) (t : Thread) :
    (s.putThread pid t).debt? p = if p = pid then t.debt? else s.debt? p := by
  rw [debt?, threads_putThread]
  split <;> rfl

lemma debt?_of_threads (ht : s.threads[pid]? = some t) : s.debt? pid = t.debt? := by
  rw [debt?, ht, Option.bind_some]

/-- Looking up a profile only notes that it was looked up. -/
lemma threads_lookUp_self (s : Simulation ρ) (pid : Nat) :
    (s.lookUp pid).threads[pid]? = s.threads[pid]?.map fun t => { t with seen := true } := by
  rcases s.lookUp_cases pid with ⟨hseen, heq⟩ | ⟨t, ht, heq | ⟨shelf, tunables, heq⟩⟩
  · rw [heq]
    rcases ht : s.threads[pid]? with _ | t
    · rfl
    · exact congrArg (fun b => some { t with seen := b }) (hseen t ht)
  · rw [heq, ht]
    exact threads_putThread_self s pid { t with seen := true }
  · rw [heq, ht]
    exact threads_putThread_self s pid { t with seen := true }

lemma rng_lookUp (s : Simulation ρ) (pid : Nat) : (s.lookUp pid).rng = s.rng := by
  rcases s.lookUp_cases pid with ⟨-, heq⟩ | ⟨t, -, heq | ⟨shelf, tunables, heq⟩⟩
  · rw [heq]
  · rw [heq]
    rfl
  · rw [heq]
    rfl

/-- The end of a run is on the agenda, at a given time or earlier. -/
def EndsBy (s : Simulation ρ) (cpu generation time : Nat) : Prop :=
  ∃ a ∈ s.agenda.toList, a.due ≤ time ∧ a.what = .stop cpu generation

lemma EndsBy.schedule {generation time : Nat} (h : s.EndsBy cpu generation time) (due : Nat)
    (what : Occurrence) : (s.schedule due what).EndsBy cpu generation time := by
  obtain ⟨a, ha, hdue, hwhat⟩ := h
  exact ⟨a, (s.agenda.toList_add due what).mem_iff.2 (List.mem_cons_of_mem _ ha), hdue, hwhat⟩

/-! ## The invariant -/

/-- Threads have the given debts, and were inserted with the given slices, and all runs end in time.
Cores that ran something before still run it, and all other runs began now. -/
structure Timed (debts : Nat → Option Nat) (slices : Nat → Nat) (before : Nat → Option (Run × Nat))
    (s : Simulation ρ) : Prop where
  /-- What each thread owes. -/
  debt : ∀ pid, s.debt? pid = debts pid
  /-- Whoever waits does so with its slice. -/
  entries : ∀ w ∈ s.engine.queues.entries, w.slice = slices w.pid
  /-- Each run ends when its thread owes nothing any more, or with its slice, or earlier. -/
  runs : ∀ cpu r generation, s.runOn? cpu = some (r, generation) → ∃ n, debts r.pid = some n ∧
    s.now ≤ r.startedAt + min n (max (slices r.pid) 1) ∧
    s.EndsBy cpu generation (r.startedAt + min n (max (slices r.pid) 1))
  /-- Runs go on, and new ones begin now. -/
  goesOn : ∀ cpu, s.runOn? cpu = before cpu ∨
    before cpu = none ∧ ∀ r generation, s.runOn? cpu = some (r, generation) → r.startedAt = s.now

/-- Nobody owes anything in a simulation without threads, on an engine whose queues are empty. -/
lemma timed_empty {e : Engine} (hq : e.queues.entries = []) (rng : ρ) (now : Nat) :
    Timed (fun _ => none) (fun _ => 0) (fun _ => none) ({
      engine := e, rng := rng, now := now, cores := Array.replicate e.topology.nrCpus {} } :
        Simulation ρ) := by
  have hrun : ∀ cpu, runOn? ({
      engine := e, rng := rng, now := now, cores := Array.replicate e.topology.nrCpus {} } :
        Simulation ρ) cpu = none := by
    intro cpu
    rw [runOn?, Array.getElem?_replicate]
    split <;> rfl
  refine ⟨fun pid => by simp [debt?], fun w hw => ?_, fun cpu r g hr => ?_, fun cpu => .inl (hrun cpu)⟩
  · have hw : w ∈ e.queues.entries := hw
    rw [hq] at hw
    cases hw
  · rw [hrun] at hr
    cases hr

namespace Timed

/-! ## Small changes -/

lemma withEngine (h : s.Timed debts slices before) {e : Engine}
    (hq : e.queues = s.engine.queues) : { s with engine := e }.Timed debts slices before :=
  { h with entries := fun w hw => h.entries w (hq ▸ hw) }

lemma schedule (h : s.Timed debts slices before) (time : Nat) (what : Occurrence) :
    (s.schedule time what).Timed debts slices before :=
  { h with
    runs := fun cpu r generation hr => by
      obtain ⟨n, hn, hle, hends⟩ := h.runs cpu r generation hr
      exact ⟨n, hn, hle, hends.schedule time what⟩ }

/-- A change of a thread that does not change what it owes. -/
lemma putThread (h : s.Timed debts slices before) (ht : t.debt? = debts pid) :
    (s.putThread pid t).Timed debts slices before :=
  { h with
    debt := fun p => by
      rw [debt?_putThread]
      split
      · next hp => rw [hp, ht]
      · exact h.debt p }

/-- No core runs a thread that is moving, and it does not wait; so it may come to owe anything, and to
have been inserted with any slice. -/
lemma revise {u : Simulation ρ} (h : s.Timed debts slices before)
    (ho : s.Orderly due (some pid)) {debt : Option Nat}
    (hdebt : ∀ p, u.debt? p = Function.update debts pid debt p) (hc : u.cores = s.cores)
    (hn : u.now = s.now) (ha : u.agenda = s.agenda)
    (hq : ∀ w ∈ u.engine.queues.entries, w ∈ s.engine.queues.entries) (slice : Nat) :
    u.Timed (Function.update debts pid debt) (Function.update slices pid slice) before := by
  have hrun : ∀ j, u.runOn? j = s.runOn? j := fun j => by rw [runOn?, runOn?, hc]
  refine ⟨hdebt, fun w hw => ?_, fun cpu r g hr => ?_, fun cpu => ?_⟩
  · have hne : w.pid ≠ pid := by
      intro he
      have hcount := ho.entries pid
      have hpos := List.count_pos_iff.2 (List.mem_map.2 ⟨w, hq w hw, he⟩)
      rw [hcount] at hpos
      simp [isIn] at hpos
    rw [Function.update_of_ne hne]
    exact h.entries w (hq w hw)
  · rw [hrun] at hr
    have hne : r.pid ≠ pid := by
      intro he
      obtain ⟨c, hc, hr, -⟩ := runOn?_eq_some_iff.1 hr
      exact (ho.running cpu c r hc hr).1 (congrArg some he.symm)
    rw [Function.update_of_ne hne, Function.update_of_ne hne, hn]
    obtain ⟨n, hdebt, hle, a, hmem, hends⟩ := h.runs cpu r g hr
    exact ⟨n, hdebt, hle, a, by rw [ha]; exact hmem, hends⟩
  · rw [hrun, hn]
    exact h.goesOn cpu

lemma putMoving (h : s.Timed debts slices before) (ho : s.Orderly due (some pid)) (t : Thread)
    (slice : Nat) : (s.putThread pid t).Timed (Function.update debts pid t.debt?)
      (Function.update slices pid slice) before := by
  refine h.revise (u := s.putThread pid t) ho (fun p => ?_) rfl rfl rfl (fun w hw => hw) slice
  rw [debt?_putThread, Function.update_apply]
  split
  · rfl
  · exact h.debt p

/-! ## Cores take up work -/

/-- A run begins, and its end is put on the agenda. -/
lemma startRun (h : s.Timed debts slices before) (hdebt : debts pid = some n)
    (hfree : s.isFree cpu = true) (generation : Nat) :
    ((s.modifyCore cpu fun c => { c with run := some ⟨pid, s.now⟩, generation := generation }).schedule
      (s.later (min n (max (slices pid) 1))) (.stop cpu generation)).Timed debts slices before := by
  have hnone : before cpu = none := by
    rcases h.goesOn cpu with hsame | ⟨hnone, -⟩
    · exact hsame.symm.trans (runOn?_of_isFree hfree)
    · exact hnone
  refine { h with
    runs := fun j r g hr => ?_
    goesOn := fun j => ?_ }
  · have hr := (runOn?_startRun hfree _ generation j).symm.trans hr
    split at hr
    · next hj =>
      obtain ⟨rfl, rfl⟩ := Prod.mk.inj (Option.some.inj hr)
      subst hj
      -- a time that comes round is earlier
      refine ⟨n, hdebt, Nat.le_add_right _ _, ⟨s.later (min n (max (slices pid) 1)), s.agenda.made,
        _⟩, ?_, wrap64_le _, rfl⟩
      exact (s.agenda.toList_add _ _).mem_iff.2 List.mem_cons_self
    · obtain ⟨m, hm, hle, hends⟩ := h.runs j r g hr
      exact ⟨m, hm, hle, hends.schedule _ _⟩
  · have hrun := runOn?_startRun hfree ⟨pid, s.now⟩ generation j
    by_cases hj : j = cpu
    · -- nothing ran here, so this run is a new one
      subst hj
      refine .inr ⟨hnone, fun r g hr => ?_⟩
      have hr := (hrun.trans (if_pos rfl)).symm.trans hr
      obtain ⟨rfl, -⟩ := Prod.mk.inj (Option.some.inj hr)
      rfl
    · have hsame := hrun.trans (if_neg hj)
      rcases h.goesOn j with hbefore | ⟨hbefore, hnew⟩
      · exact .inl (hsame.trans hbefore)
      · exact .inr ⟨hbefore, fun r g hr => hnew r g (hsame.symm.trans hr)⟩

/-- A core that runs nothing begins to run a thread that is awake, for the slice of that thread. -/
lemma begin (h : s.Timed debts slices before) (ht : s.threads[pid]? = some t)
    (hp : t.phase ≠ .sleeping) (hfree : s.isFree cpu = true) :
    (s.begin cpu pid (slices pid)).Timed debts slices before := by
  have hdebt : debts pid = some t.remaining := by
    rw [← h.debt pid, debt?_of_threads ht, Thread.debt?_eq_some hp]
  have ho := (s.engine.onHost (·.setIdle cpu false)).outcome_running { t.task with cpu := cpu }
  have hrunning := (h.withEngine ho.queues_eq).putThread
    (t := { t with task := { t.task with cpu := cpu }, phase := .running }) hdebt.symm
  rw [begin_eq ht]
  exact hrunning.startRun hdebt hfree _

lemma takeUp (h : s.Timed debts slices before) (ho : s.Orderly due none) (cpu : Nat) :
    (s.takeUp cpu).Timed debts slices before := by
  by_cases hfree : s.isFree cpu = true
  · rcases ho.takeUp_cases hfree with ⟨-, hout, heq⟩ | ⟨w, t, queues, hpop, hout, ht, hp, -, heq⟩
    · rw [heq]
      exact h.withEngine hout.queues_eq
    · obtain ⟨id, -, hpop⟩ := DispatchQueues.popFirst?_eq_some hpop
      have hperm := DispatchQueues.entries_of_pop? hpop
      rw [heq, h.entries w (hperm.mem_iff.2 List.mem_cons_self)]
      have hdone : { s with engine := (s.engine.dispatch cpu).2 }.Timed debts slices before :=
        { h with
          entries := fun x hx => by
            refine h.entries x (hperm.mem_iff.2 (List.mem_cons_of_mem _ ?_))
            rw [← hout.queues_eq]
            exact hx }
      exact hdone.begin ht (by simp [hp]) hfree
  · unfold Simulation.takeUp
    rw [if_neg hfree]
    exact h

lemma rouse (h : s.Timed debts slices before) (ho : s.Orderly due none) (task : Task) :
    (s.rouse task).Timed debts slices before := by
  rcases s.rouse_cases task with ⟨cpu, -, -, -, heq⟩ | ⟨-, heq⟩
  · have htaken : (s.onEngine (·.onHost fun h => (h.take cpu).2)).Timed debts slices before :=
      h.withEngine rfl
    rw [heq]
    exact htaken.takeUp (ho.takeCore cpu) cpu
  · rw [heq]
    exact h

/-- A thread waits with its slice, if that is the one in force. -/
lemma await (h : s.Timed debts slices before) {task : Task}
    (hslice : s.engine.tunables.load.slice = slices task.pid) :
    (s.await task).Timed debts slices before := by
  obtain ⟨id, kicks, hout⟩ := s.engine.outcome_enqueue task
  have hperm := DispatchQueues.entries_insert s.engine.queues id task.pid
    s.engine.tunables.load.slice (s.engine.keyFor task)
  refine { h with entries := fun w hw => ?_ }
  have hw : w ∈ (s.engine.enqueue task).queues.entries := hw
  rw [hout.queues_eq] at hw
  rcases List.mem_cons.1 (hperm.mem_iff.1 hw) with rfl | hw
  · exact hslice
  · exact h.entries w hw

/-! ## Threads wake up -/

lemma lookUp (h : s.Timed debts slices before) (pid : Nat) :
    (s.lookUp pid).Timed debts slices before := by
  have hseen : ∀ t, s.threads[pid]? = some t →
      (s.putThread pid { t with seen := true }).Timed debts slices before := by
    intro t ht
    refine h.putThread ?_
    rw [← h.debt pid, debt?_of_threads ht]
    rfl
  rcases s.lookUp_cases pid with ⟨-, heq⟩ | ⟨t, ht, heq | ⟨shelf, tunables, heq⟩⟩
  · rw [heq]
    exact h
  · rw [heq]
    exact hseen t ht
  · rw [heq]
    exact { hseen t ht with }

/-- A thread that is moving and is to wait comes to owe what it has to run, and is inserted with the
slice in force. -/
lemma settle (h : s.Timed debts slices before) (ho : s.Orderly due (some pid))
    (hpid : t.task.pid = pid) (hp : t.phase = .queued) :
    (s.settle pid t).Timed (Function.update debts pid (some t.remaining))
      (Function.update slices pid s.engine.tunables.load.slice) before := by
  have hdebt : t.debt? = some t.remaining := Thread.debt?_eq_some (by simp [hp])
  obtain ⟨found, e, he, -, hqueues, hplaced, hidle, hfree, heq⟩ := ho.settle_cases pid hp
  have h₁ := h.withEngine hqueues
  have ho₁ := ho.withEngine hqueues (fun j hj => ((hidle j).1 hj).1) hplaced
  rw [heq]
  cases found with
  | some cpu =>
    have h₂ := h₁.putMoving ho₁ { t with task := { t.task with cpu := cpu } }
      s.engine.tunables.load.slice
    have h₃ := h₂.begin (threads_putThread_self _ _ _) (by simp [hp]) (hfree cpu rfl)
    rw [Function.update_self] at h₃
    exact hdebt ▸ h₃
  | none =>
    -- looking for a core leaves the settings alone
    have htunables : e.tunables = s.engine.tunables := by
      obtain ⟨_, _, -, -, hout⟩ := s.engine.outcome_selectCpu t.task t.task.cpu
      rw [← he]
      exact hout.tunables_eq
    have h₂ := h₁.putMoving ho₁ t s.engine.tunables.load.slice
    have h₃ : ((({ s with engine := e }.putThread pid t).await t.task)).Timed
        (Function.update debts pid t.debt?)
        (Function.update slices pid s.engine.tunables.load.slice) before := by
      refine h₂.await ?_
      rw [hpid, Function.update_self]
      exact congrArg (·.load.slice) htunables
    have ho₂ := (ho₁.putMoving hpid).await (threads_putThread_self _ _ _) hp hpid
    exact hdebt ▸ h₃.rouse ho₂ t.task

/-- A thread that wakes up draws how long it has to run. -/
lemma wake [Random.DrawSource ρ] (h : s.Timed debts slices before)
    (ho : s.Orderly (some (.wake pid)) none) :
    ∃ t, s.threads[pid]? = some t ∧ t.phase = .sleeping ∧
      (s.wake pid).Timed (Function.update debts pid (some (max (t.spec.run.draw s.rng).1 1)))
        (Function.update slices pid (s.lookUp pid).engine.tunables.load.slice) before := by
  obtain ⟨t, ht, hp, hpid, ho₁, heq⟩ := ho.wake_eq
  obtain ⟨u, hu, rfl⟩ := Option.map_eq_some_iff.1 ((s.threads_lookUp_self pid).symm.trans ht)
  refine ⟨u, hu, hp, ?_⟩
  rw [heq, rng_lookUp]
  rw [rng_lookUp] at ho₁
  have h₁ : { s.lookUp pid with rng := (u.spec.run.draw s.rng).2 }.Timed debts slices before :=
    { h.lookUp pid with }
  exact h₁.settle
    (t := { u with seen := true, remaining := max (u.spec.run.draw s.rng).1 1, phase := .queued })
    ho₁ hpid rfl

/-! ## Threads come and go -/

/-- A thread that is moving goes to sleep, and owes nothing any more. -/
lemma lieDown (h : s.Timed debts slices before) (ho : s.Orderly due (some pid))
    (hp : t.phase = .sleeping) (rng : ρ) (time slice : Nat) :
    (({ s with rng := rng }.putThread pid t).schedule time (.wake pid)).Timed
      (Function.update debts pid none) (Function.update slices pid slice) before := by
  have hdrawn : { s with rng := rng }.Timed debts slices before := { h with }
  have hodrawn : { s with rng := rng }.Orderly due (some pid) := { ho with }
  have h₁ := hdrawn.putMoving hodrawn t slice
  rw [Thread.debt?_eq_none hp] at h₁
  exact h₁.schedule _ _

variable [Random.DrawSource ρ]

/-- A thread comes into being asleep, and owes nothing. -/
lemma spawn (h : s.Timed debts slices before) {spec : ThreadSpec}
    (hdebt : debts spec.pid = none) : (s.spawn spec).Timed debts slices before := by
  obtain ⟨t, -, -, -, hp, -, heq⟩ := s.spawn_eq spec
  have h₁ : { s.onEngine (·.onHost (·.addProcess spec.pid spec.parent spec.name)) with
      rng := (Random.DrawSource.draw64 0 longestDelay s.rng).2 }.Timed debts slices before :=
    { h with }
  rw [heq]
  exact (h₁.putThread ((Thread.debt?_eq_none hp).trans hdebt.symm)).schedule _ _

/-- A thread that is moving leaves, and its debt with it; nobody has the id of its successor yet. -/
lemma replace (h : s.Timed debts slices before) (ho : s.Orderly due (some pid))
    (hnew : s.nextPid ∉ s.threads) (t : Thread) (slice : Nat) :
    (s.replace pid t).Timed (Function.update debts pid none) (Function.update slices pid slice)
      before := by
  have hleft : ({ s with
      engine := (s.engine.taskExit pid).onHost (·.removeProcess pid)
      threads := s.threads.erase pid, nextPid := wrap32 (s.nextPid + 1) }).Timed
        (Function.update debts pid none) (Function.update slices pid slice) before := by
    refine h.revise (u := { s with
      engine := (s.engine.taskExit pid).onHost (·.removeProcess pid)
      threads := s.threads.erase pid, nextPid := wrap32 (s.nextPid + 1) }) ho (fun p => ?_) rfl rfl rfl
        (fun w hw => ?_) slice
    · show (s.threads.erase pid)[p]?.bind _ = _
      rw [threads_erase, Function.update_apply]
      split
      · rfl
      · exact h.debt p
    · have hw : w ∈ (s.engine.taskExit pid).queues.entries := hw
      rw [(s.engine.outcome_taskExit pid).queues_eq] at hw
      exact (List.mem_filter.1 ((s.engine.queues.entries_remove pid).mem_iff.1 hw)).1
  rw [replace_eq]
  refine hleft.spawn ?_
  show Function.update debts pid none s.nextPid = none
  rw [Function.update_apply]
  split
  · rfl
  · rw [← h.debt s.nextPid, debt?, Std.ExtTreeMap.getElem?_eq_none hnew]
    rfl

omit [Random.DrawSource ρ] in
/-- The engine is told that a run is over. -/
lemma afterRun (h : s.Timed debts slices before) (ho : s.Orderly due (some pid)) (t : Thread)
    (slice : Nat) (runnable : Bool) :
    (s.afterRun pid t runnable).Timed (Function.update debts pid t.debt?)
      (Function.update slices pid slice) before :=
  (h.putMoving ho t slice).withEngine (s.engine.outcome_stopping t.task runnable).queues_eq

/-- A run is over, and its thread owes nothing any more. -/
lemma retire (h : s.Timed debts slices before) (ho : s.Orderly due (some pid))
    (hnew : s.nextPid ∉ s.threads) (hmem : pid ∈ s.threads) (hpid : t.task.pid = pid)
    (slice : Nat) :
    (s.retire pid t).Timed (Function.update debts pid none) (Function.update slices pid slice)
      before := by
  have h₁ := h.afterRun ho t slice false
  have ho₁ := ho.afterRun hpid false
  rcases s.retire_cases pid t with heq | heq
  · have hnew₁ : (s.afterRun pid t false).nextPid ∉ (s.afterRun pid t false).threads :=
      nextPid_not_mem_putThread hnew hmem t
    have h₂ := h₁.replace ho₁ hnew₁ t slice
    rw [Function.update_idem, Function.update_idem] at h₂
    rw [heq]
    exact h₂
  · have h₂ := h₁.lieDown ho₁ (t := { t with phase := .sleeping }) rfl
    simp only [Function.update_idem] at h₂
    rw [heq]
    exact h₂ _ _ slice

omit [Random.DrawSource ρ] in
/-- A run is over, and its thread has to run on with the slice in force. -/
lemma requeue (h : s.Timed debts slices before) (ho : s.Orderly due (some pid))
    (hpid : t.task.pid = pid) :
    (s.requeue pid t).Timed (Function.update debts pid (some t.remaining))
      (Function.update slices pid s.engine.tunables.load.slice) before := by
  have h₁ := h.afterRun ho { t with phase := .queued } s.engine.tunables.load.slice true
  rw [requeue_eq]
  refine h₁.await ?_
  rw [hpid, Function.update_self]
  exact congrArg (·.load.slice) (s.engine.outcome_stopping t.task true).tunables_eq

/-! ## Runs end -/

/-- A run that ends pays its length off.  If something is left, its thread is inserted again. -/
lemma endRun {c : SimCore} {r : Run} (h : (s.vacate cpu).Timed debts slices before)
    (ho : s.Orderly (some (.stop cpu c.generation)) none) (hnew : s.nextPid ∉ s.threads)
    (hc : s.cores[cpu]? = some c) (hr : c.run = some r) (hdebt : debts r.pid = some n) :
    (s.endRun cpu r).Timed
      (Function.update debts r.pid ((some (n - (s.now - r.startedAt))).filter (0 < ·)))
      (Function.update slices r.pid s.engine.tunables.load.slice) before := by
  obtain ⟨t, ht, hp, -, hpid, ho₁, hends⟩ := ho.endRun_eq hc hr
  have ht₁ : (s.vacate cpu).threads[r.pid]? = some t := ht
  obtain rfl : t.remaining = n := by
    have howed := (debt?_of_threads ht₁).symm.trans (h.debt r.pid)
    rw [Thread.debt?_eq_some (by simp [hp]), hdebt] at howed
    exact Option.some.inj howed
  rcases hends with ⟨hleft, heq⟩ | ⟨hdone, heq⟩
  · have hleft : 0 < t.remaining - (s.now - r.startedAt) := hleft
    rw [heq, Option.filter_some_pos (by simpa using hleft)]
    have h₂ := h.requeue (t := t.ranFor (s.now - r.startedAt)) ho₁ hpid
    have ho₂ := ho₁.requeue (t := t.ranFor (s.now - r.startedAt)) hpid
    exact (h₂.takeUp ho₂ cpu).rouse (ho₂.takeUp cpu) t.task
  · have hdone : t.remaining - (s.now - r.startedAt) = 0 := hdone
    have hmem := mem_threads_of_eq_some ht
    rw [heq, Option.filter_some_neg (by simp [hdone])]
    have h₂ := h.retire (t := t.ranFor (s.now - r.startedAt)) ho₁ hnew hmem hpid
      s.engine.tunables.load.slice
    have ho₂ := ho₁.retire (t := t.ranFor (s.now - r.startedAt)) hnew hmem hpid
    exact h₂.takeUp ho₂ cpu

/-! ## Ticks and kicks -/

lemma tick (h : s.Timed debts slices before) : s.tick.Timed debts slices before := by
  obtain ⟨rng, e, he, heq⟩ := s.tick_eq (P := fun e => e.queues = s.engine.queues) rfl
    fun e cpu level he => ((e.onHost (·.setPerf cpu level)).outcome_tick cpu).queues_eq.trans he
  have h₁ := h.withEngine he
  have h₂ : { s with rng := rng, engine := e }.Timed debts slices before := { h₁ with }
  rw [heq]
  exact h₂.schedule _ _

omit [Random.DrawSource ρ] in
/-- A kick puts one more end of a run on the agenda. -/
lemma heed (h : s.Timed debts slices before) (k : Kick) :
    (s.heed k).Timed debts slices before := by
  rcases s.heed_cases k with heq | ⟨r, generation, -, heq⟩
  · rw [heq]
    exact h
  · rw [heq]
    exact h.schedule _ _

omit [Random.DrawSource ρ] in
lemma heedKicks (h : s.Timed debts slices before) : s.heedKicks.Timed debts slices before :=
  s.heedKicks_rec (h.withEngine (e := s.engine.onHost (·.takeKicks.2)) rfl) fun _ hs k _ => hs.heed k

end Timed

/-! ## What falls due -/

/-- What falls due ends no run but the one it is for.  It is the first thing on the agenda, so it does
not come after the end of any run. -/
lemma Timed.fallDue {u : Simulation ρ} (h : s.Timed debts slices before) {limit : Nat}
    {a : Appointment} {rest : Agenda} (ha : s.agenda.take? limit = some (a, rest))
    (hd : u.debt? = s.debt?) (hq : u.engine.queues = s.engine.queues) (hnow : u.now = a.due)
    (hagenda : u.agenda = rest)
    (hruns : ∀ cpu r generation, u.runOn? cpu = some (r, generation) →
      s.runOn? cpu = some (r, generation) ∧ a.what ≠ .stop cpu generation) :
    u.Timed debts slices u.runOn? := by
  have hperm := Agenda.toList_of_take? ha
  refine ⟨fun pid => (congrFun hd pid).trans (h.debt pid), fun w hw => h.entries w (hq ▸ hw),
    fun cpu r g hr => ?_, fun cpu => .inl rfl⟩
  obtain ⟨hr, hother⟩ := hruns cpu r g hr
  obtain ⟨n, hn, -, b, hb, hdue, hwhat⟩ := h.runs cpu r g hr
  have hfirst := Agenda.first_of_take? ha b hb
  refine ⟨n, hn, hnow ▸ hfirst.trans hdue, b, ?_, hdue, hwhat⟩
  rw [hagenda]
  rcases List.mem_cons.1 (hperm.mem_iff.1 hb) with rfl | hb
  · exact absurd hwhat hother
  · exact hb

/-- When something falls due, no run has lasted longer than its thread owes or than its slice. -/
lemma Timed.length_le (h : s.Timed debts slices before) {limit generation : Nat}
    {a : Appointment} {rest : Agenda} {r : Run} (ha : s.agenda.take? limit = some (a, rest))
    (hr : s.runOn? cpu = some (r, generation)) :
    ∃ n, debts r.pid = some n ∧ a.due - r.startedAt ≤ n ∧
      a.due - r.startedAt ≤ max (slices r.pid) 1 := by
  obtain ⟨n, hn, -, b, hb, hdue, -⟩ := h.runs cpu r generation hr
  have hfirst := Agenda.first_of_take? ha b hb
  exact ⟨n, hn, by omega, by omega⟩

end Simulation

end CoreSteer
