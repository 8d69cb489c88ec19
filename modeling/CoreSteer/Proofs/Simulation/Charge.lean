import CoreSteer.Proofs.Engine.Kicks
import CoreSteer.Proofs.Simulation.Moves
import Mathlib.Algebra.Order.BigOperators.Group.Finset
/-!
# How much can happen at one instant

Zero sleeps, zero delays and kicks put things on the agenda that fall due at once.  That does not go
on for ever, and the *charge* of a simulation says for how long it may: everything that is ahead
counts for as many events as may come of it before the clock moves on.

A thread that wakes up may kick a core, and another core may take up work, so a wake-up counts five.
The end of a run counts one.  A run that began before now counts six more, since its thread may wake
up again at once, or wait again and kick a core, and up to two cores take up work.  A run that
begins now counts nothing, because its end is not due yet, unless its core was kicked; then it
counts two.  Two are enough, because whoever gives way is not gaming, and kicks nobody when it waits
again: only gaming tasks kick, and only what is not gaming is kicked.

Whatever happens uses up charge.  The invariant `Simulation.Paced` bounds the charge, and says what
kicks and kicked cores have to do with the urgency of what runs.
-/
namespace CoreSteer

/-- How many events an appointment stands for at a given time. -/
def Appointment.weight (now : Nat) (a : Appointment) : Nat :=
  match a.what with
  | .wake _ => 5
  | .stop _ _ => 1
  | .tick => if a.due ≤ now then 2 else 1

lemma Appointment.weight_pos (now : Nat) (a : Appointment) : 0 < a.weight now := by
  unfold weight
  split
  · decide
  · decide
  · split <;> decide

/-- Later, only ticks weigh more. -/
lemma Appointment.sum_weight_le (l : List Appointment) (now later : Nat) :
    (l.map (·.weight later)).sum ≤ (l.map (·.weight now)).sum + (l.map (·.what)).count .tick := by
  induction l with
  | nil => exact Nat.zero_le _
  | cons a l ih =>
    simp only [List.map_cons, List.sum_cons]
    have hweight : a.weight later ≤ a.weight now + if a.what = .tick then 1 else 0 := by
      unfold weight
      cases a.what with
      | wake | stop => exact Nat.le_add_right _ _
      | tick =>
        dsimp only
        split <;> split <;> simp
    rw [List.count_cons]
    simp only [beq_iff_eq]
    omega

namespace Simulation

variable {ρ : Type} {s s' : Simulation ρ} {t : Topology} {due : Option Occurrence}
  {moving : Option Nat} {now n pid cpu : Nat} {u : Thread}

/-! ## What cores run -/

/-- The thread that runs on each core. -/
def occupancy (s : Simulation ρ) : Occupancy := fun cpu => (s.runOn? cpu).map (·.1.pid)

/-- A core runs something that gives way to games. -/
def GivesWay (s : Simulation ρ) (cpu : Nat) : Prop :=
  ∃ pid, s.occupancy cpu = some pid ∧ TaskState.urgency (s.engine.task? pid) ≠ .gaming

/-- The end of a run of a core is due. -/
def EndsNow (s : Simulation ρ) (cpu generation : Nat) : Prop :=
  ∃ a ∈ s.agenda.toList, a.due ≤ s.now ∧ a.what = .stop cpu generation

instance (s : Simulation ρ) (cpu generation : Nat) : Decidable (s.EndsNow cpu generation) :=
  inferInstanceAs (Decidable (∃ a ∈ s.agenda.toList, a.due ≤ s.now ∧ a.what = .stop cpu generation))

/-- How many events the run on a core stands for. -/
def stake (s : Simulation ρ) (cpu : Nat) : Nat :=
  match s.runOn? cpu with
  | none => 0
  | some (r, generation) =>
    if r.startedAt < s.now then 6 else if s.EndsNow cpu generation then 2 else 0

/-- How many events all appointments stand for. -/
def expected (s : Simulation ρ) : Nat := (s.agenda.toList.map (·.weight s.now)).sum

/-- How many events all runs stand for. -/
def stakes (s : Simulation ρ) : Nat := ∑ cpu ∈ Finset.range s.cores.size, s.stake cpu

/-- How many events may happen before the clock moves on. -/
def charge (s : Simulation ρ) : Nat := s.expected + s.stakes + 3 * s.engine.host.kicks.size

/-- How many events the kick of a thread that comes to wait stands for. -/
def kickPrice (s : Simulation ρ) (pid : Nat) : Nat :=
  if TaskState.urgency (s.engine.task? pid) = .gaming then 3 else 0

lemma occupancy_of_isFree (h : s.isFree cpu = true) : s.occupancy cpu = none := by
  rw [occupancy, runOn?_of_isFree h, Option.map_none]

lemma occupancy_eq_set {x : Option (Run × Nat)}
    (h : ∀ j, s'.runOn? j = if j = cpu then x else s.runOn? j) :
    s'.occupancy = s.occupancy.set cpu (x.map (·.1.pid)) := by
  funext j
  rw [occupancy, h j, Occupancy.set]
  split <;> rfl

/-- Whoever is moving runs nowhere. -/
lemma Orderly.rests (h : s.Orderly due (some pid)) : s.occupancy.Rests pid := by
  intro cpu ho
  obtain ⟨⟨r, generation⟩, hrun, rfl⟩ := Option.map_eq_some_iff.1 ho
  obtain ⟨c, hc, hr, -⟩ := runOn?_eq_some_iff.1 hrun
  exact (h.running cpu c r hc hr).1 rfl

lemma kickPrice_of_ne (h : TaskState.urgency (s.engine.task? pid) ≠ .gaming) :
    s.kickPrice pid = 0 := if_neg h

lemma kickPrice_le (s : Simulation ρ) (pid : Nat) : s.kickPrice pid ≤ 3 := by
  unfold kickPrice
  split <;> omega

lemma stake_le (s : Simulation ρ) (cpu : Nat) : s.stake cpu ≤ 6 := by
  unfold stake
  split
  · omega
  · split
    · omega
    · split <;> omega

lemma stake_of_runOn?_eq_none (h : s.runOn? cpu = none) : s.stake cpu = 0 := by
  rw [stake, h]

/-- A run that began earlier. -/
lemma stake_of_lt {r : Run} {generation : Nat} (hrun : s.runOn? cpu = some (r, generation))
    (h : r.startedAt < s.now) : s.stake cpu = 6 := by
  rw [stake, hrun]
  exact if_pos h

/-- A run that began now and gives way. -/
lemma stake_of_endsNow {r : Run} {generation : Nat} (hrun : s.runOn? cpu = some (r, generation))
    (h : ¬ r.startedAt < s.now) (hends : s.EndsNow cpu generation) : s.stake cpu = 2 := by
  rw [stake, hrun]
  exact (if_neg h).trans (if_pos hends)

/-- A run does not count more as long as no more ends are due. -/
lemma stake_mono (hrun : s'.runOn? cpu = s.runOn? cpu) (hnow : s'.now = s.now)
    (hends : ∀ generation, s'.EndsNow cpu generation → s.EndsNow cpu generation) :
    s'.stake cpu ≤ s.stake cpu := by
  unfold stake
  rw [hrun, hnow]
  rcases s.runOn? cpu with _ | ⟨r, generation⟩
  · exact Nat.le_refl _
  · dsimp only
    split
    · exact Nat.le_refl _
    · by_cases he : s'.EndsNow cpu generation
      · rw [if_pos he, if_pos (hends generation he)]
      · rw [if_neg he]
        exact Nat.zero_le _

/-- Whatever ends come to be due, a run that began now counts two at most. -/
lemma stake_le_add_two (hrun : s'.runOn? cpu = s.runOn? cpu) (hnow : s'.now = s.now) :
    s'.stake cpu ≤ s.stake cpu + 2 := by
  unfold stake
  rw [hrun, hnow]
  rcases s.runOn? cpu with _ | ⟨r, generation⟩
  · exact Nat.zero_le _
  · dsimp only
    split
    · omega
    · split <;> omega

lemma stakes_le_cores (s : Simulation ρ) : s.stakes ≤ 6 * s.cores.size := by
  refine (Finset.sum_le_card_nsmul _ _ 6 fun cpu _ => s.stake_le cpu).trans_eq ?_
  rw [Finset.card_range]
  exact Nat.mul_comm _ _

lemma stakes_le (hsize : s'.cores.size = s.cores.size) (h : ∀ cpu, s'.stake cpu ≤ s.stake cpu) :
    s'.stakes ≤ s.stakes := by
  unfold stakes
  rw [hsize]
  exact Finset.sum_le_sum fun cpu _ => h cpu

/-- Where the run on one core counts less and no other counts more, all count less. -/
lemma stakes_add_le (hsize : s'.cores.size = s.cores.size) (hcpu : cpu < s.cores.size)
    (hothers : ∀ j, j ≠ cpu → s'.stake j ≤ s.stake j) {k l : Nat}
    (hk : s'.stake cpu + k ≤ s.stake cpu + l) : s'.stakes + k ≤ s.stakes + l := by
  have hmem : cpu ∈ Finset.range s.cores.size := Finset.mem_range.2 hcpu
  have hsum : ∑ j ∈ (Finset.range s.cores.size).erase cpu, s'.stake j ≤
      ∑ j ∈ (Finset.range s.cores.size).erase cpu, s.stake j :=
    Finset.sum_le_sum fun j hj => hothers j (Finset.ne_of_mem_erase hj)
  unfold stakes
  rw [hsize, ← Finset.add_sum_erase _ s'.stake hmem, ← Finset.add_sum_erase _ s.stake hmem]
  omega

lemma endsNow_schedule (s : Simulation ρ) (time : Nat) (what : Occurrence) (generation : Nat) :
    (s.schedule time what).EndsNow cpu generation ↔
      (time ≤ s.now ∧ what = .stop cpu generation) ∨ s.EndsNow cpu generation := by
  have hmem := fun a => (s.agenda.toList_add time what).mem_iff (a := a)
  constructor
  · rintro ⟨a, ha, hdue, hwhat⟩
    rcases List.mem_cons.1 ((hmem a).1 ha) with rfl | ha
    · exact .inl ⟨hdue, hwhat⟩
    · exact .inr ⟨a, ha, hdue, hwhat⟩
  · rintro (⟨hdue, hwhat⟩ | ⟨a, ha, hdue, hwhat⟩)
    · exact ⟨_, (hmem _).2 List.mem_cons_self, hdue, hwhat⟩
    · exact ⟨a, (hmem a).2 (List.mem_cons_of_mem _ ha), hdue, hwhat⟩

/-! ## The invariant -/

/-- At most `n` events may happen before the clock moves on from `now`; only a thread that is moving
may be awake without having anything to run for. -/
structure Paced (t : Topology) (now : Nat) (moving : Option Nat) (n : Nat) (s : Simulation ρ) :
    Prop where
  /-- The time is `now`. -/
  clock : s.now = now
  /-- The cores are those of the machine. -/
  nrCores : s.cores.size = t.nrCpus
  /-- The books of the engine say what the cores run. -/
  mirrors : Mirrors t s.occupancy s.engine
  /-- The cores that are kicked give way. -/
  kicked : ∀ k ∈ s.engine.host.kicks, s.GivesWay k.cpu
  /-- No run begins later. -/
  started : ∀ cpu r generation, s.runOn? cpu = some (r, generation) → r.startedAt ≤ s.now
  /-- A run that began now ends now only to give way. -/
  cut : ∀ cpu r generation, s.runOn? cpu = some (r, generation) → r.startedAt = s.now →
    s.EndsNow cpu generation → s.GivesWay cpu
  /-- The ends on the agenda are for runs that have begun. -/
  generations : ∀ (cpu : Nat) (c : SimCore), s.cores[cpu]? = some c →
    ∀ a ∈ s.agenda.toList, ∀ generation, a.what = .stop cpu generation → generation ≤ c.generation
  /-- A thread that is awake has something to run for. -/
  ready : ∀ (pid : Nat) (u : Thread), s.threads[pid]? = some u → moving ≠ some pid →
    u.phase ≠ .sleeping → 0 < u.remaining
  /-- There is one tick ahead. -/
  ticks : (s.agenda.toList.map (·.what)).count .tick ≤ 1
  /-- There is no more charge than `n`. -/
  charge_le : s.charge ≤ n

/-- A core goes on giving way, whatever happens in the life cycle of tasks. -/
lemma GivesWay.after (h : s.GivesWay cpu) (hm : Mirrors t s.occupancy s.engine) {c : EngineCall}
    (hp : s.occupancy.Permits t c) (hengine : s'.engine = s.engine.after c)
    (ho : s'.occupancy cpu = s.occupancy cpu) : s'.GivesWay cpu := by
  obtain ⟨pid, hpid, hurgency⟩ := h
  refine ⟨pid, ho.trans hpid, ?_⟩
  rw [hengine, hm.urgency_after hp hpid]
  exact hurgency

namespace Paced

lemma mono {m : Nat} (h : s.Paced t now moving n) (hn : n ≤ m) : s.Paced t now moving m :=
  { h with charge_le := h.charge_le.trans hn }

/-- The charge that there is always is enough. -/
lemma exact (h : s.Paced t now moving n) : s.Paced t s.now moving s.charge :=
  { h with clock := rfl, charge_le := Nat.le_refl _ }

/-- Less is said where a thread is moving. -/
lemma loosen (h : s.Paced t now none n) (pid : Nat) : s.Paced t now (some pid) n :=
  { h with ready := fun p u hu _ => h.ready p u hu (by simp) }

/-! ## Small changes -/

/-- A call of the engine that lets the cores run what they run and kicks nobody. -/
lemma withCall (h : s.Paced t now moving n) {c : EngineCall} (hp : s.occupancy.Permits t c)
    (ho : s.occupancy.after c = s.occupancy)
    (hk : (s.engine.after c).host.kicks = s.engine.host.kicks) :
    { s with engine := s.engine.after c }.Paced t now moving n :=
  { h with
    mirrors := show Mirrors t s.occupancy _ from ho ▸ h.mirrors.after hp
    kicked := fun k hmem => (h.kicked k (hk ▸ hmem)).after h.mirrors hp rfl rfl
    cut := fun cpu r g hr hnow he => (h.cut cpu r g hr hnow he).after h.mirrors hp rfl rfl
    charge_le := by
      have hcharge := h.charge_le
      unfold charge at hcharge ⊢
      rw [hk]
      exact hcharge }

lemma onHost (h : s.Paced t now moving n) {f : Host → Host}
    (hk : (f s.engine.host).kicks = s.engine.host.kicks) :
    (s.onEngine (·.onHost f)).Paced t now moving n :=
  h.withCall (c := .platform (f s.engine.host)) trivial rfl hk

lemma putThread (h : s.Paced t now moving n) (pid : Nat)
    (hu : moving ≠ some pid → u.phase ≠ .sleeping → 0 < u.remaining) :
    (s.putThread pid u).Paced t now moving n :=
  { h with
    ready := fun p v hv hm hp => by
      rw [threads_putThread] at hv
      split at hv
      · next hpid =>
        cases hv
        exact hu (hpid ▸ hm) hp
      · exact h.ready p v hv hm hp }

/-- The thread that is moving has come to a place. -/
lemma arrive (h : s.Paced t now (some pid) n) (hu : s.threads[pid]? = some u)
    (hready : u.phase ≠ .sleeping → 0 < u.remaining) : s.Paced t now none n :=
  { h with
    ready := fun p v hv _ hp => by
      by_cases hpid : p = pid
      · subst hpid
        obtain rfl : u = v := Option.some.inj (hu.symm.trans hv)
        exact hready hp
      · exact h.ready p v hv (fun he => hpid (Option.some.inj he).symm) hp }

lemma eraseThread (h : s.Paced t now (some pid) n) (nextPid : Nat) :
    { s with threads := s.threads.erase pid, nextPid := nextPid }.Paced t now none n :=
  { h with
    ready := fun p v hv _ hp => by
      have hv := (s.threads_erase pid p).symm.trans hv
      split at hv
      · cases hv
      · next hpid => exact h.ready p v hv (fun he => hpid (Option.some.inj he).symm) hp }

/-- Something is put on the agenda.  If it is to end a run now, that run gives way. -/
lemma schedule (h : s.Paced t now moving n) {time : Nat} (what : Occurrence)
    (hgives : ∀ cpu generation, what = .stop cpu generation → time ≤ s.now → s.GivesWay cpu)
    (hbegun : ∀ (cpu : Nat) (c : SimCore) (generation : Nat), s.cores[cpu]? = some c →
      what = .stop cpu generation → generation ≤ c.generation)
    (htick : what = .tick → (s.agenda.toList.map (·.what)).count .tick = 0) {k l : Nat}
    (hk : Appointment.weight s.now ⟨time, s.agenda.made, what⟩ ≤ k)
    (hl : (s.schedule time what).stakes ≤ s.stakes + l) :
    (s.schedule time what).Paced t now moving (n + k + l) := by
  have hperm := s.agenda.toList_add time what
  refine { h with
    cut := fun cpu r g hr hnow he => ?_
    generations := fun cpu c hc a ha g hwhat => ?_
    ticks := ?_
    charge_le := ?_ }
  · rcases (endsNow_schedule s time what g).1 he with ⟨hle, hwhat⟩ | he
    · exact hgives cpu g hwhat hle
    · exact h.cut cpu r g hr hnow he
  · rcases List.mem_cons.1 (hperm.mem_iff.1 ha) with rfl | ha
    · exact hbegun cpu c g hc hwhat
    · exact h.generations cpu c hc a ha g hwhat
  · refine ((hperm.map (·.what)).count_eq _).trans_le ?_
    rw [List.map_cons]
    by_cases hw : what = .tick
    · rw [hw, List.count_cons_self, htick hw]
    · rw [List.count_cons_of_ne hw]
      exact h.ticks
  · have hexpected : (s.schedule time what).expected ≤ k + s.expected :=
      (hperm.map _).sum_nat.trans_le (Nat.add_le_add_right hk _)
    have hcharge := h.charge_le
    unfold charge at hcharge ⊢
    change _ + _ + 3 * s.engine.host.kicks.size ≤ n + k + l
    omega

/-- Something is put on the agenda that ends no run now. -/
lemma scheduleLater (h : s.Paced t now moving n) {time : Nat} (what : Occurrence)
    (hlater : ∀ cpu generation, what = .stop cpu generation → s.now < time)
    (hbegun : ∀ (cpu : Nat) (c : SimCore) (generation : Nat), s.cores[cpu]? = some c →
      what = .stop cpu generation → generation ≤ c.generation)
    (htick : what = .tick → (s.agenda.toList.map (·.what)).count .tick = 0) {k : Nat}
    (hk : Appointment.weight s.now ⟨time, s.agenda.made, what⟩ ≤ k) :
    (s.schedule time what).Paced t now moving (n + k) := by
  have hends : ∀ cpu g, (s.schedule time what).EndsNow cpu g → s.EndsNow cpu g := by
    intro cpu g he
    rcases (endsNow_schedule s time what g).1 he with ⟨hle, hwhat⟩ | he
    · exact absurd (hlater cpu g hwhat) (Nat.not_lt_of_le hle)
    · exact he
  refine h.schedule (l := 0) what (fun cpu g hwhat hle => ?_) hbegun htick hk
    (stakes_le rfl fun cpu => stake_mono rfl rfl (hends cpu))
  exact absurd (hlater cpu g hwhat) (Nat.not_lt_of_le hle)

/-- What is taken off the agenda does not count any more. -/
lemma takeOff (h : s.Paced t now moving n) {a : Appointment} {rest : Agenda}
    (ha : s.agenda.toList.Perm (a :: rest.toList)) :
    ∃ m, m + a.weight s.now = n ∧ { s with agenda := rest }.Paced t now moving m := by
  have hmem : ∀ b ∈ rest.toList, b ∈ s.agenda.toList := fun b hb =>
    ha.mem_iff.2 (List.mem_cons_of_mem _ hb)
  have hends : ∀ cpu g, { s with agenda := rest }.EndsNow cpu g → s.EndsNow cpu g := by
    rintro cpu g ⟨b, hb, hdue⟩
    exact ⟨b, hmem b hb, hdue⟩
  have hexpected : s.expected = a.weight s.now + { s with agenda := rest }.expected :=
    (ha.map _).sum_nat
  have hstakes : { s with agenda := rest }.stakes ≤ s.stakes :=
    stakes_le rfl fun cpu => stake_mono rfl rfl (hends cpu)
  have hcharge := h.charge_le
  unfold charge at hcharge
  refine ⟨n - a.weight s.now, by omega, { h with
    cut := fun cpu r g hr hnow he => h.cut cpu r g hr hnow (hends cpu g he)
    generations := fun cpu c hc b hb => h.generations cpu c hc b (hmem b hb)
    ticks := ?_
    charge_le := ?_ }⟩
  · refine Nat.le_trans ?_ h.ticks
    rw [(ha.map (·.what)).count_eq]
    exact List.count_le_count_cons
  · unfold charge
    change _ + _ + 3 * s.engine.host.kicks.size ≤ _
    omega

/-! ## Runs begin and end -/

/-- A thread that runs nowhere begins to run on a core that runs nothing.  The run counts nothing,
because no end for it is on the agenda yet. -/
lemma startRun (h : s.Paced t now moving n) (hfree : s.isFree cpu = true) (task : Task)
    (hcpu : task.cpu = cpu) (hpid : task.pid = pid) (hrests : s.occupancy.Rests pid)
    (generation : Nat)
    (hnew : ∀ c : SimCore, s.cores[cpu]? = some c → c.generation < generation) :
    ({ s with engine := s.engine.running task }.modifyCore cpu fun c =>
      { c with run := some ⟨pid, s.now⟩, generation := generation }).Paced t now moving n := by
  obtain ⟨c, hc, -⟩ := isFree_iff.1 hfree
  have hnone := occupancy_of_isFree hfree
  have hp : s.occupancy.Permits t (.running task) := by
    subst hcpu hpid
    exact ⟨h.nrCores ▸ (Array.getElem?_eq_some_iff.1 hc).1, hnone, hrests⟩
  have hkicks : (s.engine.running task).host.kicks = s.engine.host.kicks :=
    congrArg Host.kicks (s.engine.outcome_running task).host_eq
  have hends : ∀ a ∈ s.agenda.toList, a.what ≠ .stop cpu generation := fun a ha hwhat =>
    absurd (h.generations cpu c hc a ha generation hwhat) (Nat.not_le_of_lt (hnew c hc))
  have hrun := runOn?_startRun (s := { s with engine := s.engine.running task }) hfree
    ⟨pid, s.now⟩ generation
  have ho := occupancy_eq_set (s := s) hrun
  -- whatever gives way runs on another core
  have hgives : ∀ j, s.GivesWay j → ({ s with engine := s.engine.running task }.modifyCore cpu
      fun c => { c with run := some ⟨pid, s.now⟩, generation := generation }).GivesWay j := by
    intro j hj
    have hne : j ≠ cpu := by
      rintro rfl
      obtain ⟨p, hpid, -⟩ := hj
      rw [hnone] at hpid
      cases hpid
    refine hj.after h.mirrors hp rfl ?_
    rw [ho, Occupancy.set_of_ne _ _ hne]
  refine { h with
    nrCores := Array.size_modify.trans h.nrCores
    mirrors := by
      rw [ho]
      subst hcpu hpid
      exact h.mirrors.after hp
    kicked := fun k hk => hgives _ (h.kicked k (hkicks ▸ hk))
    started := fun j r g hr => ?_
    cut := fun j r g hr hnow he => ?_
    generations := fun j d hd a ha g hwhat => ?_
    charge_le := ?_ }
  · rw [hrun] at hr
    split at hr
    · cases hr
      exact Nat.le_refl _
    · exact h.started j r g hr
  · rw [hrun] at hr
    split at hr
    · next hj =>
      cases hr
      subst hj
      obtain ⟨a, ha, -, hwhat⟩ := he
      exact absurd hwhat (hends a ha)
    · exact hgives j (h.cut j r g hr hnow he)
  · rw [cores_modifyCore] at hd
    split at hd
    · next hj =>
      subst hj
      obtain ⟨d', hd', rfl⟩ := Option.map_eq_some_iff.1 hd
      exact (h.generations j d' hd' a ha g hwhat).trans (Nat.le_of_lt (hnew d' hd'))
    · exact h.generations j d hd a ha g hwhat
  · have hstakes : ({ s with engine := s.engine.running task }.modifyCore cpu fun c =>
        { c with run := some ⟨pid, s.now⟩, generation := generation }).stakes ≤ s.stakes := by
      refine stakes_le Array.size_modify fun j => ?_
      by_cases hj : j = cpu
      · subst hj
        have hlater : ¬ ({ s with engine := s.engine.running task }.modifyCore j fun c =>
            { c with run := some ⟨pid, s.now⟩, generation := generation }).EndsNow j
              generation := by
          rintro ⟨a, ha, -, hwhat⟩
          exact hends a ha hwhat
        rw [stake, hrun, if_pos rfl]
        dsimp only
        rw [if_neg hlater]
        simp [modifyCore]
      · exact stake_mono ((hrun j).trans (if_neg hj)) rfl fun _ he => he
    have hcharge := h.charge_le
    unfold charge at hcharge ⊢
    change s.expected + _ + 3 * (s.engine.running task).host.kicks.size ≤ n
    rw [hkicks]
    omega

/-- A run ends, and does not count any more. -/
lemma endOfRun (h : s.Paced t now moving n) (hquiet : s.engine.host.kicks = #[]) {r : Run}
    {g : Nat} (hrun : s.runOn? cpu = some (r, g)) {task : Task} (hcpu : task.cpu = cpu)
    (hpid : task.pid = r.pid) (runnable : Bool) :
    ∃ m, m + s.stake cpu = n ∧
      ({ s with engine := s.engine.stopping task runnable }.vacate cpu).Paced t now moving m := by
  have hlt : cpu < s.cores.size := by
    obtain ⟨c, hc, -⟩ := runOn?_eq_some_iff.1 hrun
    exact (Array.getElem?_eq_some_iff.1 hc).1
  have hp : s.occupancy.Permits t (.stopping task runnable) := by
    show s.occupancy task.cpu = some task.pid
    rw [hcpu, hpid, occupancy, hrun]
    rfl
  have hkicks : (s.engine.stopping task runnable).host.kicks = #[] :=
    (congrArg Host.kicks (s.engine.outcome_stopping task runnable).host_eq).trans hquiet
  have hruns := runOn?_vacate { s with engine := s.engine.stopping task runnable } cpu
  have ho := occupancy_eq_set (s := s) hruns
  -- the other cores run what they ran
  have hothers : ∀ j x, ({ s with engine := s.engine.stopping task runnable }.vacate
      cpu).runOn? j = some x → j ≠ cpu ∧ s.runOn? j = some x := by
    intro j x hx
    rw [hruns] at hx
    split at hx
    · cases hx
    · next hj => exact ⟨hj, hx⟩
  have hstakes : ({ s with engine := s.engine.stopping task runnable }.vacate
      cpu).stakes + s.stake cpu ≤ s.stakes := by
    refine stakes_add_le (l := 0) Array.size_modify hlt (fun j hj => ?_) ?_
    · exact stake_mono ((hruns j).trans (if_neg hj)) rfl fun _ he => he
    · rw [stake_of_runOn?_eq_none ((hruns cpu).trans (if_pos rfl))]
      omega
  have hcharge := h.charge_le
  unfold charge at hcharge
  refine ⟨n - s.stake cpu, by omega, { h with
    nrCores := Array.size_modify.trans h.nrCores
    mirrors := by
      rw [ho, ← hcpu]
      exact h.mirrors.after hp
    kicked := fun k hk => ?_
    started := fun j r g hr => h.started j r g (hothers j _ hr).2
    cut := fun j r g hr hnow he => ?_
    generations := fun j d hd a ha g hwhat => ?_
    charge_le := ?_ }⟩
  · have hk : k ∈ (s.engine.stopping task runnable).host.kicks := hk
    rw [hkicks] at hk
    exact absurd hk (Array.not_mem_empty k)
  · obtain ⟨hj, hr⟩ := hothers j _ hr
    refine (h.cut j r g hr hnow he).after h.mirrors hp rfl ?_
    rw [ho, Occupancy.set_of_ne _ _ hj]
  · rw [vacate, cores_modifyCore] at hd
    split at hd
    · obtain ⟨d', hd', rfl⟩ := Option.map_eq_some_iff.1 hd
      exact h.generations j d' hd' a ha g hwhat
    · exact h.generations j d hd a ha g hwhat
  · unfold charge
    change s.expected + _ + 3 * (s.engine.stopping task runnable).host.kicks.size ≤ _
    rw [hkicks, Array.size_empty]
    omega

/-! ## The clock moves on -/

/-- When the clock moves on, all runs began earlier, and the tick may be due. -/
lemma moveTo (h : s.Paced t now moving n) {time : Nat} (hlt : s.now < time) :
    ({ s with now := time }.onEngine (·.onHost fun h => { h with now := time })).Paced t time moving
      (n + (6 * t.nrCpus + 1)) := by
  have hgives : ∀ j, s.GivesWay j → ({ s with now := time }.onEngine
      (·.onHost fun h => { h with now := time })).GivesWay j := fun j hj =>
    hj.after h.mirrors (c := .platform { s.engine.host with now := time }) trivial rfl rfl
  have hexpected := Appointment.sum_weight_le s.agenda.toList s.now time
  have hstakes : ({ s with now := time }.onEngine
      (·.onHost fun h => { h with now := time })).stakes ≤ 6 * t.nrCpus :=
    (stakes_le_cores _).trans_eq (congrArg (6 * ·) h.nrCores)
  have hticks := h.ticks
  have hcharge := h.charge_le
  unfold charge expected at hcharge
  exact { h with
    clock := rfl
    mirrors := h.mirrors.after (c := .platform { s.engine.host with now := time }) trivial
    kicked := fun k hk => hgives _ (h.kicked k hk)
    started := fun cpu r g hr => (h.started cpu r g hr).trans (Nat.le_of_lt hlt)
    cut := fun cpu r g hr hnow => absurd hnow (Nat.ne_of_lt ((h.started cpu r g hr).trans_lt hlt))
    charge_le := by
      unfold charge expected
      change (s.agenda.toList.map (·.weight time)).sum + _ + 3 * s.engine.host.kicks.size ≤ _
      omega }

/-- The clock moves on to some later time, or stays. -/
lemma advance (h : s.Paced t now moving n) {time : Nat} (hle : now ≤ time) :
    ({ s with now := time }.onEngine (·.onHost fun h => { h with now := time })).Paced t time moving
      (n + (6 * t.nrCpus + 1) * (time - now)) := by
  rcases Nat.eq_or_lt_of_le hle with rfl | hlt
  · obtain rfl := h.clock
    exact (h.onHost (f := fun h => { h with now := s.now }) rfl).mono (Nat.le_add_right _ _)
  · refine (h.moveTo (h.clock.symm ▸ hlt)).mono (Nat.add_le_add_left ?_ n)
    exact Nat.le_mul_of_pos_right _ (Nat.sub_pos_of_lt hlt)

end Paced

end Simulation

end CoreSteer
