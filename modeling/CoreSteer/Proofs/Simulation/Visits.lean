import CoreSteer.Proofs.Simulation.Parts
/-!
# Runs, and the states on the way

A run up to a time is a row of events, after which nothing is due any more (`runUntil?_eq_some_iff`);
where there is no such row the run has no end.  `Visits` gathers all states that a simulation comes
through, however runs up to one time and another follow each other and settings are changed between
them.

Both count the threads that made room on the way.  The counter that gives ids to their successors
comes round, so what is said of runs in which many threads make room has to tell how many there were.
-/
namespace CoreSteer.Simulation

variable {ρ : Type} [Random.DrawSource ρ] {s s' s₀ s₁ : Simulation ρ} {limit last m n k : Nat}

omit [Random.DrawSource ρ] in
/-- How many threads made room in an event: the counter of ids moves on if one did. -/
def turnover (s s' : Simulation ρ) : Nat := if s'.nextPid = s.nextPid then 0 else 1

omit [Random.DrawSource ρ] in
lemma turnover_le_one (s s' : Simulation ρ) : s.turnover s' ≤ 1 := by
  unfold turnover
  split <;> decide

/-- `n` events one after the other, each due by `limit`, in which `k` threads made room. -/
inductive Steps (limit : Nat) : (n k : Nat) → Simulation ρ → Simulation ρ → Prop
  | refl (s : Simulation ρ) : Steps limit 0 0 s s
  | step {n k : Nat} {s s₁ s' : Simulation ρ} (h : s.step? limit = some s₁)
      (hs : Steps limit n k s₁ s') : Steps limit (n + 1) (s.turnover s₁ + k) s s'

/-- No more threads make room than there are events. -/
lemma Steps.turnover_le (h : Steps limit n k s s') : k ≤ n := by
  induction h with
  | refl => exact Nat.le_refl 0
  | @step n k s s₁ s' _ _ ih =>
    have hone := s.turnover_le_one s₁
    omega

/-! ## Runs up to a time -/

lemma runUntil?_of_event (h : s.step? limit = some s₁) :
    s.runUntil? limit = s₁.runUntil? limit := by
  rw [runUntil?, h]

lemma runUntil?_of_rest (h : s.step? limit = none) :
    s.runUntil? limit = some (s.moveClock limit) := by
  rw [runUntil?, h]

lemma Steps.runUntil? (h : Steps limit n k s s') : s.runUntil? limit = s'.runUntil? limit := by
  induction h with
  | refl => rfl
  | step h _ ih => exact (runUntil?_of_event h).trans ih

/-- A run ends where there are events after which nothing is due any more. -/
lemma runUntil?_eq_some_iff :
    s.runUntil? limit = some s' ↔
      ∃ n k s₁, Steps limit n k s s₁ ∧ s₁.step? limit = none ∧ s' = s₁.moveClock limit := by
  constructor
  · refine runUntil?.partial_correctness limit (fun s s' => ∃ n k s₁, Steps limit n k s s₁ ∧
      s₁.step? limit = none ∧ s' = s₁.moveClock limit) (fun run ih s s' h => ?_) s s'
    split at h
    · next next hnext =>
      obtain ⟨n, k, s₁, hs, hnone, heq⟩ := ih next s' h
      exact ⟨n + 1, _, s₁, .step hnext hs, hnone, heq⟩
    · next hnone =>
      obtain rfl := Option.some.inj h
      exact ⟨0, 0, s, .refl s, hnone, rfl⟩
  · rintro ⟨n, k, s₁, hs, hnone, rfl⟩
    rw [hs.runUntil?, runUntil?_of_rest hnone]

/-- What holds at the end of a run, and is carried back over each of its events, holds before. -/
@[elab_as_elim]
lemma runUntil?_induction {motive : Simulation ρ → Prop} (h : s.runUntil? limit = some s')
    (rest : ∀ s, s.step? limit = none → s' = s.moveClock limit → motive s)
    (event : ∀ s s₁, s.step? limit = some s₁ → s₁.runUntil? limit = some s' → motive s₁ →
      motive s) : motive s := by
  obtain ⟨n, k, s₁, hs, hnone, heq⟩ := runUntil?_eq_some_iff.1 h
  clear h
  induction hs with
  | refl s => exact rest s hnone heq
  | @step n k s s₂ s₁ h hs ih =>
    exact event s s₂ h (runUntil?_eq_some_iff.2 ⟨n, k, s₁, hs, hnone, heq⟩) (ih hnone heq)

/-- A run with at most `n` events; nothing if there are more. -/
def runWithin? (limit : Nat) : (n : Nat) → Simulation ρ → Option (Simulation ρ)
  | 0, s => if (s.step? limit).isNone then some (s.moveClock limit) else none
  | n + 1, s =>
    match s.step? limit with
    | some next => next.runWithin? limit n
    | none => some (s.moveClock limit)

/-- What comes of a run with few enough events comes of the run. -/
lemma exists_steps_of_runWithin? (h : s.runWithin? limit n = some s') :
    ∃ m k s₁, m ≤ n ∧ Steps limit m k s s₁ ∧ s₁.step? limit = none ∧
      s' = s₁.moveClock limit := by
  induction n generalizing s with
  | zero =>
    unfold runWithin? at h
    split at h
    · next hnone =>
      exact ⟨0, 0, s, Nat.le_refl 0, .refl s, Option.isNone_iff_eq_none.1 hnone,
        (Option.some.inj h).symm⟩
    · cases h
  | succ n ih =>
    unfold runWithin? at h
    split at h
    · next next hnext =>
      obtain ⟨m, k, s₁, hm, hs, hnone, heq⟩ := ih h
      exact ⟨m + 1, _, s₁, Nat.succ_le_succ hm, .step hnext hs, hnone, heq⟩
    · next hnone =>
      exact ⟨0, 0, s, Nat.zero_le _, .refl s, hnone, (Option.some.inj h).symm⟩

lemma runUntil?_of_runWithin? (h : s.runWithin? limit n = some s') :
    s.runUntil? limit = some s' := by
  obtain ⟨m, k, s₁, -, hs, hnone, heq⟩ := exists_steps_of_runWithin? h
  exact runUntil?_eq_some_iff.2 ⟨m, k, s₁, hs, hnone, heq⟩

/-- The states that a simulation comes through in which `n` threads made room: things fall due one
after the other, up to some limit; when nothing is due any more, the clocks move on to the limit; and
at any time somebody may change the settings and the hints.  No limit lies after `last`. -/
inductive Visits (s₀ : Simulation ρ) (last : Nat) : (n : Nat) → Simulation ρ → Prop
  | start : Visits s₀ last 0 s₀
  | event {n limit : Nat} {s s' : Simulation ρ} (h : Visits s₀ last n s) (hle : limit ≤ last)
      (hs : s.step? limit = some s') : Visits s₀ last (n + s.turnover s') s'
  | rest {n limit : Nat} {s : Simulation ρ} (h : Visits s₀ last n s) (hle : limit ≤ last)
      (hs : s.step? limit = none) : Visits s₀ last n (s.moveClock limit)
  | edit {n : Nat} {s : Simulation ρ} (h : Visits s₀ last n s) (tunables : TunablesCell)
      (hints : Hints) :
      Visits s₀ last n (s.onEngine fun e => { e with tunables := tunables, hints := hints })

namespace Visits

lemma steps (h : Visits s₀ last n s) (hle : limit ≤ last) (hs : Steps limit m k s s') :
    Visits s₀ last (n + k) s' := by
  induction hs generalizing n with
  | refl => exact h
  | @step m k s s₁ s' hstep _ ih =>
    rw [← Nat.add_assoc]
    exact ih (h.event hle hstep)

/-- What a run ends in is visited.  So whoever runs a simulation up to one time after another, and
changes settings in between, comes through visited states only. -/
theorem runUntil? (h : Visits s₀ last n s) (hle : limit ≤ last)
    (hs : s.runUntil? limit = some s') : ∃ k, Visits s₀ last (n + k) s' := by
  obtain ⟨m, k, s₁, hsteps, hnone, rfl⟩ := runUntil?_eq_some_iff.1 hs
  exact ⟨k, (h.steps hle hsteps).rest hle hnone⟩

/-- In a run with few events few threads make room. -/
lemma runWithin? (h : Visits s₀ last n s) (hle : limit ≤ last)
    (hs : s.runWithin? limit m = some s') :
    s.runUntil? limit = some s' ∧ ∃ k ≤ m, Visits s₀ last (n + k) s' := by
  have hrun := runUntil?_of_runWithin? hs
  obtain ⟨l, k, s₁, hl, hsteps, hnone, rfl⟩ := exists_steps_of_runWithin? hs
  exact ⟨hrun, k, hsteps.turnover_le.trans hl, (h.steps hle hsteps).rest hle hnone⟩

end Visits

end CoreSteer.Simulation
