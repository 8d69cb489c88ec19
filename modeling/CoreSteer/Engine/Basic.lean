import CoreSteer.Dispatch.DrainOrder
import CoreSteer.Strategy
import CoreSteer.Task.Table
/-!
# The engine

The whole state of the policy: the machine as it sees it, the tasks that it tracks, the tasks that
wait, and the reason why it stopped.
-/
namespace CoreSteer

/-- The state of the policy. -/
structure Engine extends Machine where
  /-- The tracked tasks. -/
  tasks : TaskTable
  /-- The waiting tasks. -/
  queues : DispatchQueues
  /-- Why the engine stopped. -/
  exitReason : Option String := none

namespace Engine

/-- An engine on which nothing has happened yet.  Each queue has room for all tracked tasks. -/
def start (topology : Topology) (config : EngineConfig) (tunables : TunablesCell) (hints : Hints)
    (host : Host) : Except StartError Engine :=
  match DispatchQueues.make topology.nrDomains (tableSize config.taskCapacity) with
  | .error e => .error e
  | .ok queues =>
    .ok {
      toMachine := .make topology config tunables hints host
      tasks := .ofCapacity config.taskCapacity
      queues := queues }

/-- How tasks are placed. -/
def strategy (e : Engine) : Strategy := .forTopology e.topology

/-- What is remembered of a task, if it is tracked. -/
def task? (e : Engine) (pid : Nat) : Option TaskState := e.tasks.get? pid

/-- The number of tracked tasks. -/
def nrTasks (e : Engine) : Nat := e.tasks.count

/-- The number of tasks in a queue. -/
def queued (e : Engine) (id : QueueId) : Nat := e.queues.length id

/-- The number of tasks in all queues. -/
def queuedTotal (e : Engine) : Nat := e.queues.total

/-- Change the machine. -/
def onMachine (e : Engine) (f : Machine → Machine) : Engine :=
  match e with
  | ⟨m, tasks, queues, exitReason⟩ => ⟨f m, tasks, queues, exitReason⟩

/-- Change the table of tracked tasks. -/
def onTasks (e : Engine) (f : TaskTable → TaskTable) : Engine :=
  match e with
  | ⟨m, tasks, queues, exitReason⟩ => ⟨m, f tasks, queues, exitReason⟩

/-- Change the platform. -/
def onHost (e : Engine) (f : Host → Host) : Engine :=
  e.onMachine fun m => { m with host := f m.host }

/-- Read all events that wait. -/
def readEvents (e : Engine) : List SchedEvent × Engine :=
  match e with
  | ⟨m, tasks, queues, exitReason⟩ =>
    let (events, stream) := m.events.drain
    (events, ⟨{ m with events := stream }, tasks, queues, exitReason⟩)

/-- Record why the engine stopped; only the first reason counts. -/
def exit (e : Engine) (reason : String) : Engine :=
  { e with exitReason := e.exitReason.or (some reason) }

/-- Whether the engine stopped. -/
def exited (e : Engine) : Bool := e.exitReason.isSome

end Engine

end CoreSteer
