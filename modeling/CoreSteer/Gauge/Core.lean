import CoreSteer.Word
/-!
# What runs, and how busy it keeps the machine

For each domain the number of tasks that run there, and for each core what it runs, what it has
run, and how fast it goes.
-/
namespace CoreSteer

/-- The tasks that run in a domain. -/
structure DomainLoad where
  /-- How many there are. -/
  tasks : Nat := 0
  /-- How many of them are gaming. -/
  gaming : Nat := 0
deriving DecidableEq, Repr, Inhabited

namespace DomainLoad

/-- A task starts to run. -/
def start (l : DomainLoad) (gaming : Bool) : DomainLoad where
  tasks := wrap64 (l.tasks + 1)
  gaming := if gaming then wrap64 (l.gaming + 1) else l.gaming

/-- A task stops; a count that is zero stays zero. -/
def stop (l : DomainLoad) (gaming : Bool) : DomainLoad where
  tasks := l.tasks - 1
  gaming := if gaming then l.gaming - 1 else l.gaming

end DomainLoad

/-- How urgent a running task is. -/
inductive Urgency where
  /-- A gaming task. -/
  | gaming
  /-- A task that somebody waits for. -/
  | interactive
  /-- Any other task. -/
  | batch
deriving DecidableEq, Repr, Inhabited

namespace Urgency

/-- The place in the order of urgency, the most urgent first. -/
def level : Urgency → Nat
  | gaming => 0
  | interactive => 1
  | batch => 2

/-- The name of an urgency. -/
def name : Urgency → String
  | gaming => "gaming"
  | interactive => "interactive"
  | batch => "batch"

/-- The urgencies, the most urgent first. -/
def all : List Urgency := [gaming, interactive, batch]

end Urgency

/-- What a core runs. -/
structure RunState where
  /-- How urgent it is. -/
  urgency : Urgency := .batch
  /-- The task; zero where nothing runs. -/
  pid : Nat := 0
  /-- When the last run began. -/
  startedAt : Nat := 0
deriving DecidableEq, Repr, Inhabited

namespace RunState

/-- A run begins. -/
def begin (urgency : Urgency) (pid now : Nat) : RunState := ⟨urgency, pid, now⟩

/-- The run of `pid` ends: when it began, and the state after it; nothing happens if the core
runs another task. -/
def clearIf (r : RunState) (pid : Nat) : Option Nat × RunState :=
  if r.pid = pid then (some r.startedAt, { r with urgency := .batch, pid := 0 }) else (none, r)

/-- The running task and its urgency; task zero is never seen. -/
def current? (r : RunState) : Option (Nat × Urgency) :=
  if r.pid = 0 then none else some (r.pid, r.urgency)

end RunState

/-- What a core has done. -/
structure CoreStats where
  /-- Tasks enqueued from the core. -/
  enqueued : Nat := 0
  /-- Calls for a task to run. -/
  dispatched : Nat := 0
  /-- Gaming tasks enqueued from the core. -/
  gamingTasks : Nat := 0
  /-- Time from enqueue to run, summed. -/
  latencySum : Nat := 0
  /-- Times from enqueue to run. -/
  latencyCount : Nat := 0
  /-- The longest of them. -/
  latencyMax : Nat := 0
  /-- Time without a task. -/
  idle : Nat := 0
  /-- Time with a task. -/
  busy : Nat := 0
deriving DecidableEq, Repr, Inhabited

/-- How fast a core goes. -/
structure CorePerf where
  /-- The last level. -/
  current : Nat := 0
  /-- The moving average of the levels; zero where there is none. -/
  average : Nat := 0
  /-- When the level was last sampled. -/
  lastUpdate : Nat := 0
  /-- When the core last went idle; zero while it runs something. -/
  lastIdleAt : Nat := 0
deriving DecidableEq, Repr, Inhabited

/-- Take a sample: seven parts of the old average and one of the new level, in a 32-bit word. -/
def CorePerf.sample (p : CorePerf) (level now : Nat) : CorePerf :=
  { p with
    current := level
    average := if p.average = 0 then level else wrap32 ((p.average * 7 + level) / 8)
    lastUpdate := now }

/-- All that is known about a core while the policy runs. -/
structure CoreState where
  /-- What it runs. -/
  run : RunState := {}
  /-- What it has done. -/
  stats : CoreStats := {}
  /-- How fast it goes. -/
  perf : CorePerf := {}
deriving DecidableEq, Repr, Inhabited

end CoreSteer
