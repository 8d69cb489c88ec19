import CoreSteer.Simulation.Step
/-!
# Running a simulation

To run a simulation up to a time is to keep its appointments in order until none is due any more,
and to move the clock to that time.  Most runs come to an end, but not all: a sum of times may exceed
the clock and come round, and nothing is ever due after the largest time there is.
-/
namespace CoreSteer.Simulation

variable {ρ : Type} [Random.DrawSource ρ]

/-- The simulation after the next appointment, if that is due by `limit`. -/
def step? (limit : Nat) (s : Simulation ρ) : Option (Simulation ρ) :=
  match s.agenda.take? limit with
  | some (a, rest) => some ({ s with agenda := rest }.keep a)
  | none => none

omit [Random.DrawSource ρ] in
/-- The clocks move on to a later time. -/
def moveClock (limit : Nat) (s : Simulation ρ) : Simulation ρ :=
  { s with now := max s.now limit }.onEngine (·.onHost fun h => { h with now := max s.now limit })

/-- Run up to a time; nothing if there is no end to that. -/
def runUntil? (limit : Nat) (s : Simulation ρ) : Option (Simulation ρ) :=
  match s.step? limit with
  | some next => next |>.runUntil? limit
  | none => some (s.moveClock limit)
partial_fixpoint

/-- Run up to a time.  Nobody sees what a run without end leaves behind; it stands for no run at
all. -/
def runUntil (s : Simulation ρ) (limit : Nat) : Simulation ρ := (s.runUntil? limit).getD s

/-- Run for a length of time. -/
def runFor (s : Simulation ρ) (length : Nat) : Simulation ρ := s.runUntil (s.later length)

end CoreSteer.Simulation
