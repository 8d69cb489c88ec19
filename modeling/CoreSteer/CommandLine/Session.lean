import CoreSteer.CommandLine.Launch
import CoreSteer.Metrics.Box
/-!
# A session

A session moves a simulation on in steps of equal length.  After each step it may show a box of
metrics, and it may be over, depending on how much time has passed since it began.
-/
namespace CoreSteer.CommandLine

/-- The simulated time of a step. -/
def stepLength : Nat := 10000000

/-- A number of seconds as a whole number of nanoseconds, rounded; nothing for a negative number,
for one that a clock cannot hold, and for what is not a number. -/
def nanoseconds? (seconds : Float) : Option Nat :=
  match Decimal.Reading.ofBits seconds.toBits with
  | .finite b =>
    if b.negative && b.mantissa != 0 then none
    else if b.units 9 < UInt64.size * 1000000000 then some (b.units 9)
    else none
  | _ => none

/-- A simulation that is shown to people. -/
structure Session where
  /-- The simulation. -/
  simulation : Simulation Random.KeyStream
  /-- How long the session lasts, if it ends. -/
  deadline : Option Nat
  /-- The time between two boxes, if there are any. -/
  interval : Option Nat
  /-- When the last box was shown. -/
  shownAt : Nat := 0
  /-- The metrics at that time. -/
  shown : Metrics
  /-- The events that were read. -/
  tally : EventTally := {}

namespace Session

/-- The session that options ask for; nothing if one of their lengths of time is not one. -/
def start? (o : Options) (s : Simulation Random.KeyStream) : Option Session := do
  let deadline ← if 0 < o.duration then (nanoseconds? o.duration).map some else some none
  let interval ← match o.stats with
    | none => some none
    | some x => (nanoseconds? x).map some
  return { simulation := s, deadline, interval, shown := .ofEngine s.engine }

/-- Read all events that wait. -/
def readEvents (s : Session) : Session :=
  let (events, simulation) := s.simulation.askEngine (·.readEvents)
  { s with simulation := simulation, tally := events.foldl EventTally.record s.tally }

/-- Simulate a step. -/
def step (s : Session) : Session :=
  { s with simulation := s.simulation.runFor stepLength }.readEvents

/-- The box to show when `elapsed` has passed since the session began, if it is time for one. -/
def report (s : Session) (elapsed : Nat) (clock : String) : Option String × Session :=
  if s.interval.any fun i => decide (i ≤ elapsed - s.shownAt) then
    let m := Metrics.ofEngine s.simulation.engine
    (some ((m.since s.shown).render clock), { s with shown := m, shownAt := elapsed })
  else (none, s)

/-- Whether the session is over when `elapsed` has passed since it began. -/
def isOver (s : Session) (elapsed : Nat) : Bool := s.deadline.any fun d => decide (d ≤ elapsed)

/-- The session after its end. -/
def finish (s : Session) (elapsed : Nat) : Session :=
  let reason := if s.isOver elapsed then "duration elapsed" else "shutdown requested"
  { s with simulation := s.simulation.onEngine (·.exit reason) }

end Session

/-- What is printed as the version. -/
def versionText : String := programName ++ " " ++ programVersion ++ "\n"

/-- How a program ends that did what it was asked for. -/
def successStatus : UInt8 := 0

/-- How a program ends that could not be launched. -/
def launchErrorStatus : UInt8 := 1

/-- How a program ends whose command line is wrong. -/
def usageErrorStatus : UInt8 := 2

/-- How a program ends that was given a length of time that is none. -/
def badLengthStatus : UInt8 := 101

end CoreSteer.CommandLine
