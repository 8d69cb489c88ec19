import CoreSteer.Proofs.Dispatch.Entries
import CoreSteer.Proofs.Engine.Frame
import CoreSteer.Proofs.Task.Table
import CoreSteer.Proofs.Topology.Faultless
/-!
# Calls of the engine

An `EngineCall` is anything that may happen to an engine: a call of the platform, whatever its
arguments are, or a change from outside.  Calls may come in any order.
-/
namespace CoreSteer

/-- Anything that may happen to an engine. -/
inductive EngineCall where
  /-- A task wakes up. -/
  | selectCpu (task : Task) (prev : Nat)
  /-- A task has to wait. -/
  | enqueue (task : Task)
  /-- A core has nothing to run. -/
  | dispatch (cpu : Nat)
  /-- A task begins to run. -/
  | running (task : Task)
  /-- A task ends its run. -/
  | stopping (task : Task) (runnable : Bool)
  /-- A tick of a core. -/
  | tick (cpu : Nat)
  /-- A profile was applied because of a task. -/
  | noteProfileMatch (task : Task)
  /-- A task is gone. -/
  | taskExit (pid : Nat)
  /-- The engine is stopped. -/
  | exit (reason : String)
  /-- Somebody reads the events. -/
  | readEvents
  /-- Somebody changes the settings that may change. -/
  | settings (tunables : TunablesCell)
  /-- Somebody changes what is known about tasks. -/
  | knowledge (hints : Hints)
  /-- Something happens on the platform. -/
  | platform (host : Host)

namespace Engine

/-- The engine after something happened to it. -/
def after (e : Engine) : EngineCall → Engine
  | .selectCpu task prev => (e.selectCpu task prev).2
  | .enqueue task => e.enqueue task
  | .dispatch cpu => (e.dispatch cpu).2
  | .running task => e.running task
  | .stopping task runnable => e.stopping task runnable
  | .tick cpu => e.tick cpu
  | .noteProfileMatch task => e.noteProfileMatch task
  | .taskExit pid => e.taskExit pid
  | .exit reason => e.exit reason
  | .readEvents => e.readEvents.2
  | .settings tunables => { e with tunables := tunables }
  | .knowledge hints => { e with hints := hints }
  | .platform host => { e with host := host }

/-- Nothing changes the topology. -/
lemma topology_after (e : Engine) (c : EngineCall) : (e.after c).topology = e.topology := by
  cases c with
  | selectCpu task prev =>
    obtain ⟨_, _, -, -, ho⟩ := e.outcome_selectCpu task prev
    exact ho.topology_eq
  | enqueue task =>
    obtain ⟨_, _, ho⟩ := e.outcome_enqueue task
    exact ho.topology_eq
  | dispatch cpu =>
    rcases hp : e.queues.popFirst? (drainOrder e.topology cpu) with _ | ⟨w, queues⟩
    · exact (e.outcome_dispatch_none hp).2.topology_eq
    · exact (e.outcome_dispatch_some hp).2.topology_eq
  | running task => exact (e.outcome_running task).topology_eq
  | stopping task runnable => exact (e.outcome_stopping task runnable).topology_eq
  | tick cpu => exact (e.outcome_tick cpu).topology_eq
  | noteProfileMatch task => exact (e.outcome_noteProfileMatch task).topology_eq
  | taskExit pid => exact (e.outcome_taskExit pid).topology_eq
  | exit | readEvents | settings | knowledge | platform => rfl

/-- The engine after calls in order. -/
def afterAll (e : Engine) (cs : List EngineCall) : Engine := cs.foldl after e

lemma afterAll_append (e : Engine) (as bs : List EngineCall) :
    e.afterAll (as ++ bs) = (e.afterAll as).afterAll bs :=
  List.foldl_append

lemma topology_afterAll (e : Engine) (cs : List EngineCall) :
    (e.afterAll cs).topology = e.topology := by
  induction cs generalizing e with
  | nil => rfl
  | cons c cs ih => exact (ih (e.after c)).trans (e.topology_after c)

/-! ## The start -/

/-- There is always memory for the queues, however many tasks are to be tracked. -/
lemma memoryRefusal?_tableSize (n : Nat) : memoryRefusal? (tableSize n) = none := by
  have hbytes : tableSize n * waitingBytes ≤ maxTaskCapacity * waitingBytes :=
    Nat.mul_le_mul_right _ (tableSize_le n)
  have hmachine : maxTaskCapacity * waitingBytes < machineBytes := by decide
  have hword : maxTaskCapacity * waitingBytes < UInt64.size / 2 := by decide
  unfold memoryRefusal?
  rw [if_neg (by omega), if_neg (by omega)]

/-- An engine on which nothing has happened yet. -/
theorem exists_start (t : Topology) (config : EngineConfig) (tunables : TunablesCell)
    (hints : Hints) (host : Host) :
    ∃ queues, DispatchQueues.make t.nrDomains (tableSize config.taskCapacity) = .ok queues ∧
      start t config tunables hints host = .ok ⟨.make t config tunables hints host,
        .ofCapacity config.taskCapacity, queues, none⟩ := by
  have hmake : DispatchQueues.make t.nrDomains (tableSize config.taskCapacity) =
      .ok ⟨.empty, Array.replicate (min t.nrDomains maxDomains) .empty,
        tableSize config.taskCapacity, 0⟩ := by
    rw [DispatchQueues.make, memoryRefusal?_tableSize]
  exact ⟨_, hmake, by rw [start, hmake]⟩

/-- An engine for two domains with the smallest table of tracked tasks, on which nothing has happened
yet. -/
def onTwoDomains : Engine where
  toMachine := .make .twoDomains { taskCapacity := 0 } none {} (.ofTopology .twoDomains)
  tasks := .ofCapacity 0
  queues := ⟨.empty, #[.empty, .empty], 64, 0⟩

lemma start_twoDomains :
    start .twoDomains { taskCapacity := 0 } none {} (.ofTopology .twoDomains) = .ok onTwoDomains :=
  rfl

end Engine

end CoreSteer
