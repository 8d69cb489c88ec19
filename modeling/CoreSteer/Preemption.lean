import CoreSteer.Machine
/-!
# Which core gives way

The core that is told to give way to a task runs the least urgent work of its domain, and that work
is less urgent than the task.  Among several such cores the last one gives way.  A core that runs
nothing is left alone.
-/
namespace CoreSteer.Machine

/-- The urgency of what a core runs. -/
def urgencyOn? (m : Machine) (cpu : Nat) : Option Urgency :=
  ((m.core? cpu).bind fun c => c.run.current?).map (·.2)

/-- Go on with core `cpu`, where `best` is the core to give way so far and the urgency of what it
runs. -/
def considerVictim (m : Machine) (waker : Urgency) (best : Option (Nat × Urgency)) (cpu : Nat) :
    Option (Nat × Urgency) :=
  match m.urgencyOn? cpu with
  | none => best
  | some u =>
    if waker.level < u.level ∧ (best.all fun b => decide (b.2.level ≤ u.level)) = true then
      some (cpu, u)
    else best

/-- The core of a domain that gives way to a task of a given urgency. -/
def victim? (m : Machine) (domain : Nat) (waker : Urgency) : Option Nat :=
  match m.topology.domainMask? domain with
  | none => none
  | some cores => (cores.toList.foldl (m.considerVictim waker) none).map (·.1)

end CoreSteer.Machine
