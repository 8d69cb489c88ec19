import CoreSteer.Proofs.Simulation.Runs
import CoreSteer.Proofs.Simulation.Stints
/-!
# A wake-up is run to its end, and no further

A thread that wakes up draws how long it is going to run.  It may be cut short by its slice and by
kicks, at any instant and as often as there are any, wait again, and go on on another core.  A diary is
kept beside the simulation: of each wake-up it notes what was drawn, and of each run, when it ends, how
long it lasted and with which slice its thread had been inserted.

The lengths of the runs that are noted for a wake-up always add up, together with what the thread has
still to run, to what was drawn (`Page.Tallies`).  So when the thread goes to sleep or leaves, they add
up to that alone.  Nothing is missing from the diary, because a run that is under way goes on until its
end falls due (`Simulation.GoesOn`).
-/
namespace CoreSteer

/-! ## The diary -/

/-- A run that is over. -/
structure Stint where
  /-- How long it lasted. -/
  length : Nat
  /-- The slice with which its thread was inserted before it. -/
  slice : Nat
deriving DecidableEq, Repr

/-- What came of a wake-up. -/
structure Spell where
  /-- How long the thread was to run. -/
  drawn : Nat
  /-- The runs that are over, the latest first. -/
  stints : List Stint := []
deriving DecidableEq, Repr

namespace Spell

/-- How long the runs lasted that are over. -/
def total (x : Spell) : Nat := (x.stints.map (·.length)).sum

/-- The thread ran as long as it was to run; it runs for an instant at least. -/
def IsDone (x : Spell) : Prop := x.total = max x.drawn 1

/-- No run lasted longer than its slice; it may last for an instant in any case. -/
def IsSliced (x : Spell) : Prop := ∀ y ∈ x.stints, y.length ≤ max y.slice 1

end Spell

/-- What is noted of a thread. -/
structure Page where
  /-- The slice with which it was inserted the last time. -/
  slice : Nat := 0
  /-- Its wake-ups, the latest first. -/
  spells : List Spell := []
deriving DecidableEq, Repr

namespace Page

variable {p : Page} {debt : Option Nat} {n length : Nat}

/-- A thread wakes up. -/
def wakeUp (p : Page) (drawn slice : Nat) : Page := ⟨slice, ⟨drawn, []⟩ :: p.spells⟩

/-- A run ends; if the thread has to run on, it is inserted again. -/
def endRun (p : Page) (length slice : Nat) : Page :=
  ⟨slice, p.spells.modifyHead fun x => { x with stints := ⟨length, p.slice⟩ :: x.stints }⟩

/-- The books of a thread are in order: after each wake-up it ran as long as it was to run, but for the
latest one if it is awake, and what is missing there is its debt. -/
structure Tallies (p : Page) (debt : Option Nat) : Prop where
  /-- A thread that sleeps, or is gone, is done. -/
  asleep : debt = none → ∀ x ∈ p.spells, x.IsDone
  /-- A thread that is awake has still to run what it owes. -/
  awake : ∀ n, debt = some n → ∃ x earlier, p.spells = x :: earlier ∧
    x.total + n = max x.drawn 1 ∧ ∀ y ∈ earlier, y.IsDone
  /-- No run was longer than its slice. -/
  sliced : ∀ x ∈ p.spells, x.IsSliced

namespace Tallies

lemma wakeUp (h : p.Tallies none) (drawn slice : Nat) :
    (p.wakeUp drawn slice).Tallies (some (max drawn 1)) where
  asleep := nofun
  awake n hn := by
    obtain rfl := Option.some.inj hn
    exact ⟨⟨drawn, []⟩, p.spells, rfl, Nat.zero_add _, h.asleep rfl⟩
  sliced x hx := by
    rcases List.mem_cons.1 hx with rfl | hx
    · exact nofun
    · exact h.sliced x hx

lemma endRun (h : p.Tallies (some n)) (hdebt : length ≤ n) (hslice : length ≤ max p.slice 1)
    (slice : Nat) : (p.endRun length slice).Tallies ((some (n - length)).filter (0 < ·)) := by
  obtain ⟨x, earlier, hspells, htotal, hearlier⟩ := h.awake n rfl
  have hnew : (p.endRun length slice).spells =
      { x with stints := ⟨length, p.slice⟩ :: x.stints } :: earlier := by
    unfold Page.endRun
    rw [hspells]
    rfl
  have hsum : ({ x with stints := ⟨length, p.slice⟩ :: x.stints } : Spell).total + (n - length) =
      max x.drawn 1 := by
    have hcons : ({ x with stints := ⟨length, p.slice⟩ :: x.stints } : Spell).total =
        length + x.total := rfl
    omega
  refine ⟨fun hdone y hy => ?_, fun m hm => ?_, fun y hy => ?_⟩
  · -- nothing is left
    have hzero : n - length = 0 := by
      by_contra hleft
      rw [Option.filter_some_pos (by simpa using Nat.pos_of_ne_zero hleft)] at hdone
      cases hdone
    rw [hnew] at hy
    rcases List.mem_cons.1 hy with rfl | hy
    · rw [hzero] at hsum
      exact hsum
    · exact hearlier y hy
  · obtain ⟨hm, -⟩ := Option.filter_eq_some_iff.1 hm
    obtain rfl := Option.some.inj hm
    exact ⟨_, earlier, hnew, hsum, hearlier⟩
  · rw [hnew] at hy
    rcases List.mem_cons.1 hy with rfl | hy
    · intro z hz
      rcases List.mem_cons.1 hz with rfl | hz
      · exact hslice
      · exact h.sliced x (hspells ▸ List.mem_cons_self) z hz
    · exact h.sliced y (hspells ▸ List.mem_cons_of_mem _ hy)

end Tallies

end Page

/-- What is noted of all threads. -/
abbrev Diary := Nat → Page

namespace Simulation

variable {ρ : Type} [Random.DrawSource ρ] {s s' : Simulation ρ} {d : Diary} {limit : Nat}
  {a : Appointment} {rest : Agenda} {sc : Scenario} {n : Nat}

/-- What is noted when something falls due: that a thread wakes up, and is inserted with the slice in
force once its profile was looked up; and how long the run lasted that ends. -/
def note (s : Simulation ρ) (d : Diary) : Occurrence → Diary
  | .wake pid =>
    match s.threads[pid]? with
    | none => d
    | some t =>
      if t.phase = .sleeping then
        Function.update d pid ((d pid).wakeUp (t.spec.run.draw s.rng).1
          (s.lookUp pid).engine.tunables.load.slice)
      else d
  | .stop cpu generation =>
    match s.runOn? cpu with
    | none => d
    | some (r, g) =>
      if g = generation then
        Function.update d r.pid ((d r.pid).endRun (s.now - r.startedAt)
          s.engine.tunables.load.slice)
      else d
  | .tick => d

lemma note_wake {pid : Nat} {t : Thread} (ht : s.threads[pid]? = some t)
    (hp : t.phase = .sleeping) :
    s.note d (.wake pid) = Function.update d pid ((d pid).wakeUp (t.spec.run.draw s.rng).1
      (s.lookUp pid).engine.tunables.load.slice) := by
  unfold note
  simp only [ht, if_pos hp]

lemma note_stop {cpu generation : Nat} {r : Run} (h : s.runOn? cpu = some (r, generation)) :
    s.note d (.stop cpu generation) = Function.update d r.pid
      ((d r.pid).endRun (s.now - r.startedAt) s.engine.tunables.load.slice) := by
  unfold note
  simp only [h, if_pos]

lemma note_stop_of_ne {cpu generation : Nat} (h : ∀ r, s.runOn? cpu ≠ some (r, generation)) :
    s.note d (.stop cpu generation) = d := by
  unfold note
  dsimp only
  split
  · rfl
  · next r g hr =>
    refine if_neg fun hg => h r ?_
    exact hg ▸ hr

omit [Random.DrawSource ρ] in
/-- From one state to the next a core goes on with what it runs, unless it runs nothing or the end of
its run falls due; then whatever it runs begins now. -/
def GoesOn (s s' : Simulation ρ) (a : Appointment) : Prop :=
  ∀ cpu, s'.runOn? cpu = s.runOn? cpu ∨
    (∀ r generation, s.runOn? cpu = some (r, generation) → a.what = .stop cpu generation) ∧
      ∀ r generation, s'.runOn? cpu = some (r, generation) → r.startedAt = s'.now

/-- The states that a simulation comes through in which `n` threads made room, with the diary up to
there: things fall due, or nothing is due any more up to some limit; and at any time somebody may
change the settings and the hints, or kick a core. -/
inductive Recorded (s₀ : Simulation ρ) : (n : Nat) → Simulation ρ → Diary → Prop
  | start : Recorded s₀ 0 s₀ fun _ => {}
  | event {n : Nat} {s : Simulation ρ} {d : Diary} {limit : Nat} {a : Appointment} {rest : Agenda}
      (h : Recorded s₀ n s d) (ha : s.agenda.take? limit = some (a, rest)) :
      Recorded s₀ (n + s.turnover ({ s with agenda := rest }.keep a))
        ({ s with agenda := rest }.keep a) ((s.comeTo a rest).note d a.what)
  | rest {n : Nat} {s : Simulation ρ} {d : Diary} {limit : Nat} (h : Recorded s₀ n s d)
      (hs : s.step? limit = none) : Recorded s₀ n (s.moveClock limit) d
  | edit {n : Nat} {s : Simulation ρ} {d : Diary} (h : Recorded s₀ n s d) (tunables : TunablesCell)
      (hints : Hints) :
      Recorded s₀ n (s.onEngine fun e => { e with tunables := tunables, hints := hints }) d
  | kick {n : Nat} {s : Simulation ρ} {d : Diary} (h : Recorded s₀ n s d) (cpu : Nat)
      (flags : KickFlags) : Recorded s₀ n (s.onEngine (·.onHost (·.kick cpu flags))) d

/-- The books of all threads are in order, and so are the places where they are. -/
structure Tallied (sc : Scenario) (n : Nat) (s : Simulation ρ) (d : Diary) : Prop where
  /-- Every thread is in one place. -/
  orderly : s.Orderly none none
  /-- All threads come from the scenario or have ids from the counter. -/
  accounted : s.Accounted sc n
  /-- Runs end in time. -/
  timed : s.Timed s.debt? (fun pid => (d pid).slice) s.runOn?
  /-- What is noted of each thread tallies with what it owes. -/
  pages : ∀ pid, (d pid).Tallies (s.debt? pid)

/-! ## What one event changes -/

omit [Random.DrawSource ρ] in
lemma slice_update (d : Diary) (pid : Nat) (p : Page) :
    (fun q => (Function.update d pid p q).slice) =
      Function.update (fun q => (d q).slice) pid p.slice := by
  funext q
  rw [Function.update_apply, Function.update_apply]
  split <;> rfl

/-- The debts after something fell due are those that the diary tells of, and no run has ended but the
one it was for. -/
structure Booked (s s' : Simulation ρ) (d : Diary) (a : Appointment) (debts : Nat → Option Nat)
    (before : Nat → Option (Run × Nat)) : Prop where
  /-- Runs end in time. -/
  timed : s'.Timed debts (fun pid => (d pid).slice) before
  /-- What is noted of each thread tallies with its debt. -/
  pages : ∀ pid, (d pid).Tallies (debts pid)
  /-- Whatever does not go on has come to its end. -/
  before : ∀ cpu, before cpu = s.runOn? cpu ∨ before cpu = none ∧
    ∀ r generation, s.runOn? cpu = some (r, generation) → a.what = .stop cpu generation

namespace Tallied

omit [Random.DrawSource ρ] in
/-- The page of one thread is written, and its debt changes with it. -/
lemma book (h : s.Tallied sc n d) {pid : Nat} {p : Page} {debt : Option Nat}
    {before : Nat → Option (Run × Nat)} (hp : p.Tallies debt)
    (htimed : s'.Timed (Function.update s.debt? pid debt)
      (Function.update (fun q => (d q).slice) pid p.slice) before)
    (hbefore : ∀ cpu, before cpu = s.runOn? cpu ∨ before cpu = none ∧
      ∀ r generation, s.runOn? cpu = some (r, generation) → a.what = .stop cpu generation) :
    Booked s s' (Function.update d pid p) a (Function.update s.debt? pid debt) before where
  timed := by
    rw [slice_update]
    exact htimed
  pages q := by
    rw [Function.update_apply, Function.update_apply]
    split
    · exact hp
    · exact h.pages q
  before := hbefore

omit [Random.DrawSource ρ] in
/-- What falls due for no run leaves all of them going. -/
lemma pass (h : s.Tallied sc n d) (ha : s.agenda.take? limit = some (a, rest))
    (hother : ∀ cpu r generation, s.runOn? cpu = some (r, generation) →
      a.what ≠ .stop cpu generation) :
    (s.comeTo a rest).Timed s.debt? (fun pid => (d pid).slice) s.runOn? :=
  h.timed.fallDue (u := s.comeTo a rest) ha rfl rfl rfl rfl
    fun cpu r g hr => ⟨hr, hother cpu r g hr⟩

lemma wake {pid : Nat} (h : s.Tallied sc n d) (ha : s.agenda.take? limit = some (a, rest))
    (hwhat : a.what = .wake pid) :
    ∃ debts before, Booked s ((s.comeTo a rest).wake pid) ((s.comeTo a rest).note d (.wake pid)) a
      debts before := by
  have hpass := h.pass ha fun cpu r g _ => by simp [hwhat]
  obtain ⟨t, ht, hp, hwoken⟩ := hpass.wake (hwhat ▸ h.orderly.comeTo ha)
  have hasleep : (d pid).Tallies none := by
    rw [← Thread.debt?_eq_none hp, ← debt?_of_threads ht]
    exact h.pages pid
  rw [note_wake ht hp]
  exact ⟨_, _, h.book (hasleep.wakeUp _ _) hwoken fun cpu => .inl rfl⟩

/-- The end of the run that is under way falls due. -/
lemma endRun {cpu generation : Nat} {r : Run} (h : s.Tallied sc n d) (hnew : s.nextPid ∉ s.threads)
    (ha : s.agenda.take? limit = some (a, rest)) (hwhat : a.what = .stop cpu generation)
    (hr : s.runOn? cpu = some (r, generation)) :
    ∃ debts before, Booked s ((s.comeTo a rest).endRun cpu r)
      ((s.comeTo a rest).note d (.stop cpu generation)) a debts before := by
  obtain ⟨m, hm, hdebt, hslice⟩ := h.timed.length_le ha hr
  have hr₁ : (s.comeTo a rest).runOn? cpu = some (r, generation) := hr
  obtain ⟨c, hc, hcr, rfl⟩ := runOn?_eq_some_iff.1 hr₁
  -- all runs but this one go on
  have hothers : ((s.comeTo a rest).vacate cpu).Timed s.debt? (fun pid => (d pid).slice)
      ((s.comeTo a rest).vacate cpu).runOn? := by
    refine h.timed.fallDue ha rfl rfl rfl rfl fun j q g hq => ?_
    rw [runOn?_vacate] at hq
    split at hq
    · cases hq
    · next hj =>
      refine ⟨hq, fun he => hj ?_⟩
      exact (Occurrence.stop.inj (hwhat.symm.trans he)).1.symm
  have hended := hothers.endRun (hwhat ▸ h.orderly.comeTo ha) hnew hc hcr hm
  have hpage : (d r.pid).Tallies (some m) := hm ▸ h.pages r.pid
  rw [note_stop hr₁]
  refine ⟨_, _, h.book (hpage.endRun hdebt hslice _) hended fun j => ?_⟩
  rw [runOn?_vacate]
  split
  · next hj =>
    refine .inr ⟨rfl, fun q g hq => ?_⟩
    rw [hj, hr] at hq
    obtain ⟨-, rfl⟩ := Prod.mk.inj (Option.some.inj hq)
    exact hj ▸ hwhat
  · exact .inl rfl

/-- The end of a run falls due, if the run has not ended before. -/
lemma stop {cpu generation : Nat} (h : s.Tallied sc n d) (hnew : s.nextPid ∉ s.threads)
    (ha : s.agenda.take? limit = some (a, rest)) (hwhat : a.what = .stop cpu generation) :
    ∃ debts before, Booked s ((s.comeTo a rest).stop cpu generation)
      ((s.comeTo a rest).note d (.stop cpu generation)) a debts before := by
  rcases (s.comeTo a rest).stop_cases cpu generation with ⟨r, hr, heq⟩ | ⟨hended, heq⟩
  · rw [heq]
    exact h.endRun hnew ha hwhat hr
  · have hpass := h.pass ha fun j r g hr he => by
      obtain ⟨rfl, rfl⟩ := Occurrence.stop.inj (hwhat.symm.trans he)
      exact hended r hr
    rw [heq, note_stop_of_ne hended]
    exact ⟨_, _, hpass, h.pages, fun cpu => .inl rfl⟩

lemma happen (h : s.Tallied sc n d) (hnew : s.nextPid ∉ s.threads)
    (ha : s.agenda.take? limit = some (a, rest)) :
    ∃ debts before, Booked s ((s.comeTo a rest).happen a.what) ((s.comeTo a rest).note d a.what) a
      debts before := by
  cases hwhat : a.what with
  | wake pid => exact h.wake ha hwhat
  | stop cpu generation => exact h.stop hnew ha hwhat
  | tick =>
    have hpass := h.pass ha fun cpu r g _ => by simp [hwhat]
    exact ⟨_, _, hpass.tick, h.pages, fun cpu => .inl rfl⟩

/-- Whatever falls due, the books are in order after it, and runs have gone on. -/
lemma event (h : s.Tallied sc n d) (hsc : sc.Spares (n + 1))
    (ha : s.agenda.take? limit = some (a, rest)) :
    ({ s with agenda := rest }.keep a).Tallied sc (n + s.turnover ({ s with agenda := rest }.keep a))
        ((s.comeTo a rest).note d a.what) ∧
      s.GoesOn ({ s with agenda := rest }.keep a) a := by
  have hnew := h.accounted.nextPid_not_mem hsc
  have hstep : s.step? limit = some ({ s with agenda := rest }.keep a) :=
    step?_eq_some_iff.2 ⟨a, rest, ha, rfl⟩
  obtain ⟨debts, before, hbooked⟩ := h.happen hnew ha
  have htimed : ({ s with agenda := rest }.keep a).Timed debts
      (fun pid => ((s.comeTo a rest).note d a.what pid).slice) before :=
    { hbooked.timed.heedKicks with }
  have hdebts : debts = ({ s with agenda := rest }.keep a).debt? :=
    funext fun pid => (htimed.debt pid).symm
  refine ⟨⟨h.orderly.step hnew hstep, h.accounted.changed (.step hstep), ?_, ?_⟩, fun cpu => ?_⟩
  · rw [← hdebts]
    exact { htimed with goesOn := fun cpu => .inl rfl }
  · rw [← hdebts]
    exact hbooked.pages
  · rcases htimed.goesOn cpu with hsame | ⟨hnone, hnew⟩
    · rcases hbooked.before cpu with hbefore | ⟨hnone, hended⟩
      · exact .inl (hsame.trans hbefore)
      · refine .inr ⟨hended, fun r g hr => ?_⟩
        rw [hsame, hnone] at hr
        cases hr
    · refine .inr ⟨fun r g hr => ?_, hnew⟩
      rcases hbooked.before cpu with hbefore | ⟨-, hended⟩
      · rw [← hbefore, hnone] at hr
        cases hr
      · exact hended r g hr

/-- At the start nobody is awake, and nothing is noted. -/
lemma start {t : Topology} {e : Engine} (ht : e.topology = t) (hhost : e.host = .ofTopology t)
    (hq : e.queues.entries = []) (hn : (sc.threads.map (·.pid)).Nodup) (rng : ρ)
    (shelf : Option Shelf) :
    { start e sc rng with shelf := shelf }.Tallied sc 0 fun _ => {} := by
  have hempty := timed_empty (e := e.onMachine fun m => { m with
    host := sc.processes.foldl (fun h p => h.addProcess p.1 p.2.1 p.2.2) e.host
    hints := withHintsOf m.hints sc }) hq rng
    (sc.processes.foldl (fun h p => h.addProcess p.1 p.2.1 p.2.2) e.host).now
  have hspawned := List.foldlRecOn (motive := fun s : Simulation ρ => s.Timed (fun _ => none)
    (fun _ => 0) (fun _ => none)) sc.threads spawn hempty fun s hs spec _ => hs.spawn rfl
  have htick : (Simulation.start e sc rng).Timed (fun _ => none) (fun _ => 0) (fun _ => none) :=
    hspawned.schedule _ _
  have htimed : { Simulation.start e sc rng with shelf := shelf }.Timed (fun _ => none)
    (fun _ => 0) (fun _ => none) := { htick with }
  have hdebts : { Simulation.start e sc rng with shelf := shelf }.debt? = fun _ => none :=
    funext htimed.debt
  refine ⟨orderly_start ht hhost hq hn rng shelf, accounted_start hn e rng shelf, ?_, fun pid => ?_⟩
  · rw [hdebts]
    exact { htimed with goesOn := fun cpu => .inl rfl }
  · rw [hdebts]
    exact ⟨fun _ => nofun, nofun, nofun⟩

/-- Wherever a simulation comes, the books are in order, as long as the counter does not come across
the scenario. -/
lemma recorded {s₀ : Simulation ρ} (h₀ : s₀.Tallied sc 0 fun _ => {}) (h : Recorded s₀ n s d)
    (hsc : sc.Spares (n + 1)) : s.Tallied sc n d := by
  induction h with
  | start => exact h₀
  | @event n s d limit a rest h ha ih =>
    have hbefore := hsc.mono (Nat.succ_le_succ (Nat.le_add_right n _))
    exact ((ih hbefore).event hbefore ha).1
  | @rest n s d limit h hs ih =>
    have htallied := ih hsc
    refine ⟨{ htallied.orderly with }, htallied.accounted.same (.of_eq rfl rfl), ?_, htallied.pages⟩
    exact { htallied.timed with
      runs := fun cpu r g hr => by
        obtain ⟨m, hm, hle, hends⟩ := htallied.timed.runs cpu r g hr
        obtain ⟨b, hb, hdue, hwhat⟩ := hends
        have hlater := Agenda.lt_due_of_take?_eq_none (step?_eq_none_iff.1 hs) b hb
        exact ⟨m, hm, Nat.max_le.2 ⟨hle, (Nat.le_of_lt hlater).trans hdue⟩, b, hb, hdue, hwhat⟩
      goesOn := fun cpu => .inl rfl }
  | edit h tunables hints ih =>
    have htallied := ih hsc
    exact ⟨{ htallied.orderly with }, htallied.accounted.same (.of_eq rfl rfl),
      htallied.timed.withEngine rfl, htallied.pages⟩
  | kick h cpu flags ih =>
    have htallied := ih hsc
    exact ⟨{ htallied.orderly with }, htallied.accounted.same (.of_eq rfl rfl),
      htallied.timed.withEngine rfl, htallied.pages⟩

omit [Random.DrawSource ρ] in
/-- A run that is under way has not lasted longer than its slice. -/
lemma length_le (h : s.Tallied sc n d) {cpu generation : Nat} {r : Run}
    (hr : s.runOn? cpu = some (r, generation)) :
    s.now - r.startedAt ≤ max (d r.pid).slice 1 := by
  obtain ⟨m, -, hle, -⟩ := h.timed.runs cpu r generation hr
  omega

end Tallied

lemma Recorded.steps {s₀ : Simulation ρ} {m k : Nat} (h : Recorded s₀ n s d)
    (hs : Steps limit m k s s') : ∃ d', Recorded s₀ (n + k) s' d' := by
  induction hs generalizing n d with
  | refl => exact ⟨d, h⟩
  | @step m k s s₁ s' hstep _ ih =>
    obtain ⟨a, rest, ha, rfl⟩ := step?_eq_some_iff.1 hstep
    rw [← Nat.add_assoc]
    exact ih (h.event ha)

/-- What a run with few events ends in is recorded with some diary. -/
lemma Recorded.runWithin? {s₀ : Simulation ρ} {m : Nat} (h : Recorded s₀ n s d)
    (hs : s.runWithin? limit m = some s') : ∃ k ≤ m, ∃ d', Recorded s₀ (n + k) s' d' := by
  obtain ⟨l, k, s₁, hl, hsteps, hnone, rfl⟩ := exists_steps_of_runWithin? hs
  obtain ⟨d', h'⟩ := h.steps hsteps
  exact ⟨k, hsteps.turnover_le.trans hl, d', h'.rest hnone⟩

end Simulation

end CoreSteer
