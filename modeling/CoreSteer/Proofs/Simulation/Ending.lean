import CoreSteer.Proofs.Simulation.Pace
import CoreSteer.Proofs.Simulation.Runs
/-!
# Runs end

A run up to a time keeps appointments until none is due any more.  Each of them uses up charge, and
only when the clock moves on there is new charge, and not more than the cores and the tick account
for.  So only finitely much happens at any instant, however short runs, sleeps and slices are, and a
run up to any time ends, provided that no sum of times comes round and the ids of new threads are
nobody's.

`Simulation.Settled` is what holds between two events: it holds at the start, an event keeps it and
uses up charge (`Settled.step`), and it bounds the charge by what there is (`Settled.charge_le`).
What is said of rows of events follows by induction on them.

Where a sum of times does come round a run may have no end.  The tick is always ahead, so a run up to
the largest time that the clock can show never ends (`runUntil?_maxTime`).
-/
namespace CoreSteer

namespace Occurrence

/-- The thread that wakes up when something happens. -/
def sleeper? : Occurrence → Option Nat
  | .wake pid => some pid
  | .stop _ _ | .tick => none

/-- The threads that wake up when several things happen. -/
def sleepers (l : List Occurrence) : List Nat := l.filterMap sleeper?

lemma sleepers_wake (pid : Nat) (l : List Occurrence) :
    sleepers (.wake pid :: l) = pid :: sleepers l := rfl

lemma sleepers_stop (cpu generation : Nat) (l : List Occurrence) :
    sleepers (.stop cpu generation :: l) = sleepers l := rfl

lemma sleepers_tick (l : List Occurrence) : sleepers (.tick :: l) = sleepers l := rfl

lemma count_sleepers (l : List Occurrence) (pid : Nat) :
    (sleepers l).count pid = l.count (.wake pid) := by
  induction l with
  | nil => rfl
  | cons x l ih =>
    cases x with
    | wake p =>
      rw [sleepers_wake, List.count_cons, List.count_cons, ih]
      simp
    | stop cpu generation => rw [sleepers_stop, List.count_cons_of_ne (by simp), ih]
    | tick => rw [sleepers_tick, List.count_cons_of_ne (by simp), ih]

end Occurrence

/-- Only threads that wake up, and ticks, weigh more than one. -/
lemma Appointment.sum_weight_le_length (l : List Appointment) (now : Nat) :
    (l.map (·.weight now)).sum ≤
      l.length + 4 * (Occurrence.sleepers (l.map (·.what))).length +
        (l.map (·.what)).count .tick := by
  induction l with
  | nil => exact Nat.le_refl _
  | cons a l ih =>
    rcases a with ⟨due, serial, what⟩
    simp only [List.map_cons, List.sum_cons, List.length_cons]
    cases what with
    | wake pid =>
      have hweight : weight now ⟨due, serial, .wake pid⟩ = 5 := rfl
      rw [Occurrence.sleepers_wake, List.count_cons_of_ne (by simp), List.length_cons]
      omega
    | stop cpu generation =>
      have hweight : weight now ⟨due, serial, .stop cpu generation⟩ = 1 := rfl
      rw [Occurrence.sleepers_stop, List.count_cons_of_ne (by simp)]
      omega
    | tick =>
      have hweight : weight now ⟨due, serial, .tick⟩ ≤ 2 := by
        unfold weight
        dsimp only
        split <;> omega
      rw [Occurrence.sleepers_tick, List.count_cons_self]
      omega

namespace Simulation

variable {ρ : Type} {s s' s₀ : Simulation ρ} {t : Topology} {sc : Scenario}
  {limit last longest m n k : Nat}

/-- How many events may happen before the clock moves on. -/
def instantBudget (s : Simulation ρ) : Nat :=
  s.agenda.toList.length + 4 * s.nrThreads + 6 * s.cores.size + 1

/-- What holds between two events, after `n` threads made room. -/
structure Settled (t : Topology) (sc : Scenario) (longest n : Nat) (s : Simulation ρ) : Prop where
  /-- Every thread is in one place. -/
  orderly : s.Orderly none none
  /-- Charge bounds what may happen at this instant. -/
  paced : s.Paced t s.now none s.charge
  /-- All kicks were heeded. -/
  quiet : s.engine.host.kicks = #[]
  /-- Times fit the clock, and nothing is overdue. -/
  punctual : s.Punctual longest
  /-- All threads come from the scenario or have ids from the counter. -/
  accounted : s.Accounted sc n

/-- No more threads are going to wake up than there are. -/
lemma Orderly.length_sleepers_le (h : s.Orderly none none) :
    (Occurrence.sleepers (s.agenda.toList.map (·.what))).length ≤ s.nrThreads := by
  have hcount : ∀ pid,
      (Occurrence.sleepers (s.agenda.toList.map (·.what))).count pid =
        (s.isIn none .sleeping pid).toNat :=
    fun pid => (Occurrence.count_sleepers _ pid).trans (h.wakes pid)
  have hnodup := List.nodup_iff_count_le_one.2 fun pid =>
    (hcount pid).trans_le (Bool.toNat_le _)
  have hkeys : ∀ pid ∈ Occurrence.sleepers (s.agenda.toList.map (·.what)),
      pid ∈ s.threads.keys := by
    intro pid hpid
    have hpos := List.count_pos_iff.2 hpid
    rw [hcount] at hpos
    obtain ⟨-, u, hu, -⟩ := isIn_iff.1 (eq_true_of_toNat_pos hpos)
    rw [Std.ExtTreeMap.mem_keys, Std.ExtTreeMap.mem_iff_isSome_getElem?, hu]
    rfl
  exact (List.subperm_of_subset hnodup hkeys).length_le.trans_eq Std.ExtTreeMap.length_keys

namespace Settled

/-- Between two events the charge is bounded by the number of appointments, threads and cores. -/
lemma charge_le (h : s.Settled t sc longest n) : s.charge ≤ s.instantBudget := by
  have hexpected : s.expected ≤ _ := Appointment.sum_weight_le_length s.agenda.toList s.now
  have hsleepers := h.orderly.length_sleepers_le
  have hstakes := s.stakes_le_cores
  have hticks := h.paced.ticks
  rw [charge, instantBudget, h.quiet, Array.size_empty]
  omega

end Settled

/-! ## Events -/

lemma kicks_heedKicks (s : Simulation ρ) : s.heedKicks.engine.host.kicks = #[] :=
  s.heedKicks_rec (motive := fun s' => s'.engine.host.kicks = #[]) rfl fun s' hs k _ => by
    rcases s'.heed_cases k with heq | ⟨r, generation, -, heq⟩
    · rw [heq]
      exact hs
    · rw [heq]
      exact hs

variable [Random.DrawSource ρ] [Random.LawfulDrawSource ρ]

namespace Settled

/-- An event uses up charge, and there is new charge only if the clock moves on. -/
lemma step (h : s.Settled t sc longest n) (hsc : sc.Spares (n + 1))
    (hroom : limit + longest < UInt64.size) (hs : s.step? limit = some s') :
    s'.Settled t sc longest (n + s.turnover s') ∧ s.now ≤ s'.now ∧ s'.now ≤ limit ∧
      s'.charge < s.charge + (6 * t.nrCpus + 1) * (s'.now - s.now) := by
  have hnew := h.accounted.nextPid_not_mem hsc
  have ho := h.orderly.step hnew hs
  obtain ⟨hle, hlimit, hpunctual⟩ := h.punctual.step hroom hs
  have haccounted := h.accounted.changed (.step hs)
  obtain ⟨a, rest, ha, rfl⟩ := step?_eq_some_iff.1 hs
  have hnow : ({ s with agenda := rest }.keep a).now = a.due := (s.happens_keep a rest).now_eq
  rw [hnow] at hle hlimit ⊢
  have hfits : (s.comeTo a rest).Fits longest :=
    { h.punctual with room := lt_of_le_of_lt (Nat.add_le_add_right hlimit _) hroom }
  obtain ⟨m, hm, hpaced⟩ := h.paced.keep h.quiet (Agenda.toList_of_take? ha) hle
    (h.orderly.comeTo ha) hnew hfits
  have hquiet : ({ s with agenda := rest }.keep a).engine.host.kicks = #[] := kicks_heedKicks _
  exact ⟨⟨ho, hpaced.exact, hquiet, hpunctual, haccounted⟩, hle, hlimit,
    hpaced.charge_le.trans_lt hm⟩

/-- The first event of a row that is known to stay clear of the ids of the scenario. -/
lemma head {s₁ : Simulation ρ} (h : s.Settled t sc longest n)
    (hsc : sc.Spares (n + (s.turnover s₁ + k) + 1)) (hroom : limit + longest < UInt64.size)
    (hs : s.step? limit = some s₁) :
    sc.Spares (n + s.turnover s₁ + k + 1) ∧ s₁.Settled t sc longest (n + s.turnover s₁) ∧
      s.now ≤ s₁.now ∧ s₁.now ≤ limit ∧
      s₁.charge < s.charge + (6 * t.nrCpus + 1) * (s₁.now - s.now) := by
  rw [← Nat.add_assoc] at hsc
  exact ⟨hsc, h.step (hsc.mono (by omega)) hroom hs⟩

lemma now_le (h : s.Settled t sc longest n) (hroom : limit + longest < UInt64.size)
    (hs : Steps limit m k s s') (hsc : sc.Spares (n + k + 1)) : s.now ≤ s'.now := by
  induction hs generalizing n with
  | refl s => exact Nat.le_refl _
  | step hstep _ ih =>
    obtain ⟨hsc, h₁, hle, -, -⟩ := h.head hsc hroom hstep
    exact hle.trans (ih h₁ hsc)

/-- Each instant up to the limit adds to the events only what the cores and the tick account for. -/
lemma length_le (h : s.Settled t sc longest n) (hroom : limit + longest < UInt64.size)
    (hs : Steps limit m k s s') (hsc : sc.Spares (n + k + 1)) :
    m ≤ s.charge + (6 * t.nrCpus + 1) * (limit - s.now) := by
  induction hs generalizing n with
  | refl s => exact Nat.zero_le _
  | @step m k s s₁ s₂ hstep hs ih =>
    obtain ⟨hsc, h₁, hle, hlimit, hless⟩ := h.head hsc hroom hstep
    have hih := ih h₁ hsc
    have hsplit : (6 * t.nrCpus + 1) * (limit - s.now) =
        (6 * t.nrCpus + 1) * (s₁.now - s.now) + (6 * t.nrCpus + 1) * (limit - s₁.now) := by
      rw [← Nat.mul_add]
      congr 1
      omega
    omega

end Settled

/-! ## The start -/

lemma Visits.settled (hv : Visits s₀ last n s) (h₀ : s₀.Settled t sc longest 0)
    (hroom : last + longest < UInt64.size) (hsc : sc.Spares (n + 1)) :
    s.Settled t sc longest n := by
  induction hv with
  | start => exact h₀
  | @event n limit s s' hv hle hs ih =>
    have hbefore := hsc.mono (Nat.succ_le_succ (Nat.le_add_right n _))
    exact ((ih hbefore).step hbefore (by omega) hs).1
  | rest hv hle hs ih =>
    have h := ih hsc
    exact ⟨{ h.orderly with }, (h.paced.advance (Nat.le_max_left _ _)).exact, h.quiet,
      h.punctual.rest (by omega) hs, h.accounted.same (.of_eq rfl rfl)⟩
  | edit hv tunables hints ih =>
    have h := ih hsc
    have h₁ := h.paced.withCall (c := .settings tunables) trivial rfl rfl
    have h₂ := h₁.withCall (c := .knowledge hints) trivial rfl rfl
    exact ⟨{ h.orderly with }, h₂.exact, h.quiet, { h.punctual with },
      h.accounted.same (.of_eq rfl rfl)⟩

section

omit [Random.LawfulDrawSource ρ]

/-- The next tick is on the agenda, and it is due at a time that the clock can show. -/
def TickAhead (s : Simulation ρ) : Prop :=
  ∃ x ∈ s.agenda.toList, x.what = .tick ∧ x.due < UInt64.size

namespace TickAhead

omit [Random.DrawSource ρ] in
lemma of_schedule (s : Simulation ρ) (length : Nat) :
    (s.schedule (s.later length) .tick).TickAhead :=
  ⟨_, (s.agenda.toList_add _ _).mem_iff.2 List.mem_cons_self, rfl, wrap64_lt _⟩

omit [Random.DrawSource ρ] in
lemma schedule (h : s.TickAhead) (due : Nat) (what : Occurrence) :
    (s.schedule due what).TickAhead := by
  obtain ⟨x, hx, htick, hdue⟩ := h
  exact ⟨x, (s.agenda.toList_add due what).mem_iff.2 (List.mem_cons_of_mem _ hx), htick, hdue⟩

/-- Nothing is taken off the agenda while something happens. -/
lemma deed (h : s.TickAhead) (hd : s.Deed s') : s'.TickAhead := by
  cases hd with
  | plan | urge => exact h.schedule _ _
  | call | write | core | draw | shelve | count => exact h

lemma deeds (h : s.TickAhead) (hd : s.Deeds s') : s'.TickAhead :=
  hd.preserves (fun _ _ hdeed hs => hs.deed hdeed) h

lemma replace (h : s.TickAhead) (pid : Nat) (u : Thread) : (s.replace pid u).TickAhead := by
  have hleft : { s with
      engine := (s.engine.taskExit pid).onHost (·.removeProcess pid)
      threads := s.threads.erase pid
      nextPid := wrap32 (s.nextPid + 1) }.TickAhead := h
  obtain ⟨v, -, -, -, -, -, heq⟩ := spawn_eq { s with
      engine := (s.engine.taskExit pid).onHost (·.removeProcess pid)
      threads := s.threads.erase pid
      nextPid := wrap32 (s.nextPid + 1) } (successor u.spec s.nextPid)
  rw [replace_eq, heq]
  exact hleft.schedule _ _

lemma happens (h : s.TickAhead) (hh : s.Happens s') : s'.TickAhead :=
  hh.preserves (fun _ _ hdeed hs => hs.deed hdeed) (fun _ pid u _ hs => hs.replace pid u) h

/-- A tick that falls due puts the next one on the agenda; whatever else falls due leaves the tick
there. -/
lemma step (h : s.TickAhead) (hs : s.step? limit = some s') : s'.TickAhead := by
  obtain ⟨a, rest, ha, rfl⟩ := step?_eq_some_iff.1 hs
  obtain ⟨x, hx, htick, hdue⟩ := h
  rcases List.mem_cons.1 ((Agenda.toList_of_take? ha).mem_iff.1 hx) with rfl | hx
  · obtain ⟨rng, e, -, heq⟩ := (s.comeTo x rest).tick_eq (P := fun _ => True) trivial
      fun _ _ _ _ => trivial
    rw [keep_eq, htick]
    refine deeds ?_ ((Deeds.heedKicks _).trans (.of_deed (.count _ _)))
    show ((s.comeTo x rest).tick).TickAhead
    rw [heq]
    exact of_schedule _ _
  · have hcome : (s.comeTo a rest).TickAhead := ⟨x, hx, htick, hdue⟩
    exact hcome.happens (s.happens_keep a rest)

end TickAhead

end

end Simulation

end CoreSteer
