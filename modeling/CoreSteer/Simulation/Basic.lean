import CoreSteer.Engine.Hooks
import CoreSteer.Profile.Shelf
import CoreSteer.Simulation.Agenda
import CoreSteer.Simulation.Scenario
/-!
# The state of a simulation

A simulation drives an engine with the threads of a scenario.  It keeps the clock, the agenda, the
threads, what each core runs, and the source of random draws; everything else is the engine's.
-/
namespace CoreSteer

/-- What a thread is doing. -/
inductive Phase where
  /-- It sleeps. -/
  | sleeping
  /-- It waits for a core. -/
  | queued
  /-- It runs. -/
  | running
deriving DecidableEq, Repr

/-- A thread in a simulation. -/
structure Thread where
  /-- How it behaves. -/
  spec : ThreadSpec
  /-- The thread as the engine sees it. -/
  task : Task
  /-- What it is doing. -/
  phase : Phase := .sleeping
  /-- How long it has still to run before it sleeps. -/
  remaining : Nat := 0
  /-- When it came into being. -/
  bornAt : Nat
  /-- Whether profiles were looked up for it. -/
  seen : Bool := false
deriving DecidableEq

/-- A run of a thread on a core. -/
structure Run where
  /-- The thread. -/
  pid : Nat
  /-- When the run began. -/
  startedAt : Nat
deriving DecidableEq, Repr

/-- A core in a simulation. -/
structure SimCore where
  /-- What it runs. -/
  run : Option Run := none
  /-- How many runs it has begun. -/
  generation : Nat := 0
  /-- The threads that were put straight on the core and have not run yet, with their slices. -/
  direct : List (Nat × Nat) := []
deriving DecidableEq, Repr, Inhabited

/-- The state of a simulation whose draws come from `ρ`. -/
structure Simulation (ρ : Type) where
  /-- The engine. -/
  engine : Engine
  /-- The source of random draws. -/
  rng : ρ
  /-- The time. -/
  now : Nat
  /-- What is going to happen. -/
  agenda : Agenda := {}
  /-- The threads, by id. -/
  threads : Std.ExtTreeMap Nat Thread := ∅
  /-- The cores, by number. -/
  cores : Array SimCore
  /-- The id of the next thread that takes another one's place, from a 32-bit counter that comes
  round to zero. -/
  nextPid : Nat := 10000
  /-- How many things have happened. -/
  processed : Nat := 0
  /-- The profiles that are looked up for new threads. -/
  shelf : Option Shelf := none

namespace Simulation

/-- How long it is from one tick to the next. -/
def tickPeriod : Nat := 4000000

/-- The longest time before a new thread wakes up. -/
def longestDelay : Nat := 1000000

variable {ρ : Type}

/-- Change the engine. -/
def onEngine (s : Simulation ρ) (f : Engine → Engine) : Simulation ρ :=
  match s with
  | ⟨engine, rng, now, agenda, threads, cores, nextPid, processed, shelf⟩ =>
    ⟨f engine, rng, now, agenda, threads, cores, nextPid, processed, shelf⟩

/-- Ask the engine for something, which may change it. -/
def askEngine {α : Type} (s : Simulation ρ) (f : Engine → α × Engine) : α × Simulation ρ :=
  match s with
  | ⟨engine, rng, now, agenda, threads, cores, nextPid, processed, shelf⟩ =>
    let (a, engine) := f engine
    (a, ⟨engine, rng, now, agenda, threads, cores, nextPid, processed, shelf⟩)

/-- The time after a length of time has passed, kept in a 64-bit word. -/
def later (s : Simulation ρ) (length : Nat) : Nat := wrap64 (s.now + length)

/-- Make an appointment. -/
def schedule (s : Simulation ρ) (due : Nat) (what : Occurrence) : Simulation ρ :=
  { s with agenda := s.agenda.add due what }

/-- Write the state of a thread. -/
def putThread (s : Simulation ρ) (pid : Nat) (t : Thread) : Simulation ρ :=
  { s with threads := s.threads.insert pid t }

/-- Change a core, if it exists. -/
def modifyCore (s : Simulation ρ) (cpu : Nat) (f : SimCore → SimCore) : Simulation ρ :=
  { s with cores := s.cores.modify cpu f }

/-- The number of threads. -/
def nrThreads (s : Simulation ρ) : Nat := s.threads.size

variable [Random.DrawSource ρ]

/-- A thread comes into being, asleep; it wakes up after a short delay. -/
def spawn (s : Simulation ρ) (spec : ThreadSpec) : Simulation ρ :=
  let task : Task :=
    { pid := spec.pid
      tgid := spec.tgid
      name := .ofString spec.name
      cgroup := spec.cgroup
      cpu := spec.pid % max s.cores.size 1
      allowed := s.engine.topology.allCpus }
  let (delay, rng) := Random.DrawSource.draw64 0 longestDelay s.rng
  let s := s.onEngine (·.onHost (·.addProcess spec.pid spec.parent spec.name))
  ({ s with rng := rng }.putThread spec.pid { spec, task, bornAt := s.now }).schedule
    (s.later delay) (.wake spec.pid)

/-- The tables of a scenario take the places of the tables of processes, containers and control
groups. -/
def withHintsOf (h : Hints) (sc : Scenario) : Hints :=
  { h with
    processes := .ofEntries sc.processHints
    containers := .ofEntries sc.containerHints
    cgroups := .ofEntries sc.cgroupHints }

/-- A simulation of a scenario on an engine, at the time that the platform shows. -/
def start (engine : Engine) (sc : Scenario) (rng : ρ) : Simulation ρ :=
  let host := sc.processes.foldl (fun h p => h.addProcess p.1 p.2.1 p.2.2) engine.host
  let engine := engine.onMachine fun m => { m with host := host, hints := withHintsOf m.hints sc }
  let s : Simulation ρ :=
    { engine, rng, now := host.now, cores := Array.replicate engine.topology.nrCpus {} }
  let s := sc.threads.foldl spawn s
  s.schedule (s.later tickPeriod) .tick

/-- The simulation with profiles to look up. -/
def withShelf (s : Simulation ρ) (shelf : Shelf) : Simulation ρ := { s with shelf := some shelf }

end Simulation

end CoreSteer
