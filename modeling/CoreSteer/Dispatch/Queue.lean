import CoreSteer.Heap
import CoreSteer.StartError
import CoreSteer.Topology.Basic
/-!
# Dispatch queues

Tasks that wait for a core stand in queues: one for each domain, and one fallback queue.  In each
queue the task with the lowest key comes first, and tasks with equal keys keep the order in which
they came.
-/
namespace CoreSteer

/-- A waiting task. -/
structure Waiting where
  /-- The task. -/
  pid : Nat
  /-- Its key. -/
  vtime : Nat
  /-- How long it may run. -/
  slice : Nat
  /-- How many tasks came before it, to any queue. -/
  arrival : Nat
deriving DecidableEq, Repr

namespace Waiting

/-- The lower key goes first, and the earlier arrival among equal keys. -/
instance : LE Waiting :=
  ⟨fun a b => a.vtime < b.vtime ∨ (a.vtime = b.vtime ∧ a.arrival ≤ b.arrival)⟩

theorem le_def {a b : Waiting} :
    a ≤ b ↔ a.vtime < b.vtime ∨ (a.vtime = b.vtime ∧ a.arrival ≤ b.arrival) := Iff.rfl

instance : DecidableLE Waiting := fun a b =>
  inferInstanceAs (Decidable (a.vtime < b.vtime ∨ (a.vtime = b.vtime ∧ a.arrival ≤ b.arrival)))

instance : Std.IsLinearPreorder Waiting where
  le_refl a := le_def.2 (by omega)
  le_trans a b c h₁ h₂ := by
    rw [le_def] at h₁ h₂ ⊢
    omega
  le_total a b := by
    rw [le_def, le_def]
    omega

end Waiting

/-- The name of a queue. -/
inductive QueueId where
  /-- The queue for tasks whose domain has none. -/
  | fallback
  /-- The queue of a domain. -/
  | domain (d : Nat)
deriving DecidableEq, Repr

namespace QueueId

/-- The queue of a domain; a domain out of range uses the fallback queue. -/
def ofDomain (d : Nat) : QueueId := if maxDomains ≤ d then fallback else domain d

/-- The number of the fallback queue. -/
def fallbackNumber : Nat := 0

/-- The number of the queue of the first domain. -/
def domainBase : Nat := 1

/-- The number of a queue. -/
def number : QueueId → Nat
  | fallback => fallbackNumber
  | domain d => domainBase + d

/-- The name of a queue in reports. -/
def render : QueueId → String
  | fallback => "fallback"
  | domain d => s!"D{d}"

end QueueId

/-- The bytes that a waiting task takes up. -/
def waitingBytes : Nat := 32

/-- The bytes of memory that a machine is taken to have. -/
def machineBytes : Nat := 32 * 1024 * 1024 * 1024

/-- Why no memory is set aside for `n` waiting tasks, if none is: their bytes cannot be counted by a
signed word, or no machine has them. -/
def memoryRefusal? (n : Nat) : Option MemoryRefusal :=
  if UInt64.size / 2 ≤ n * waitingBytes then some .uncountable
  else if machineBytes ≤ n * waitingBytes then some .unavailable
  else none

/-- A queue of waiting tasks. -/
structure DispatchQueue where
  /-- The tasks. -/
  heap : Heap Waiting
  /-- How many tasks the queue says that it holds; one that says none is not looked into. -/
  nr : Nat

namespace DispatchQueue

/-- The queue of the tasks in a heap. -/
def ofHeap (h : Heap Waiting) : DispatchQueue := ⟨h, h.size⟩

/-- The queue without tasks. -/
def empty : DispatchQueue := ofHeap .empty

/-- A task comes to the queue. -/
def push (q : DispatchQueue) (w : Waiting) : DispatchQueue := ofHeap (q.heap.insert w)

/-- Take the first task out. -/
def pop? (q : DispatchQueue) : Option (Waiting × DispatchQueue) :=
  if q.nr = 0 then none
  else
    match q.heap.pop? with
    | some (w, h) => some (w, ofHeap h)
    | none => none

/-- Take a task out, wherever it stands. -/
def drop (q : DispatchQueue) (pid : Nat) : DispatchQueue := ofHeap (q.heap.filter (·.pid != pid))

/-- Whether the queue gets shorter when a task is taken out. -/
def shrinks (q : DispatchQueue) (pid : Nat) : Bool := decide ((q.drop pid).heap.size < q.heap.size)

end DispatchQueue

/-- All dispatch queues. -/
structure DispatchQueues where
  /-- The fallback queue. -/
  fallback : DispatchQueue
  /-- The queue of each domain. -/
  domains : Array DispatchQueue
  /-- How many tasks each queue has room for from the start. -/
  reserved : Nat
  /-- How many tasks have come, to any queue. -/
  arrivals : Nat

namespace DispatchQueues

/-- Queues without tasks, for a number of domains and with room for `reserve` tasks each. -/
def make (nrDomains reserve : Nat) : Except StartError DispatchQueues :=
  match memoryRefusal? reserve with
  | some refusal => .error (.noQueueMemory QueueId.fallbackNumber refusal)
  | none => .ok ⟨.empty, Array.replicate (min nrDomains maxDomains) .empty, reserve, 0⟩

/-- The number of domains that have a queue. -/
def nrDomains (q : DispatchQueues) : Nat := q.domains.size

/-- The queue of a given name; a domain without a queue uses the fallback queue. -/
def queue (q : DispatchQueues) : QueueId → DispatchQueue
  | .fallback => q.fallback
  | .domain d => q.domains.getD d q.fallback

/-- Put another queue in the place of one. -/
def setQueue (q : DispatchQueues) (id : QueueId) (x : DispatchQueue) : DispatchQueues :=
  match id with
  | .fallback => { q with fallback := x }
  | .domain d =>
    if d < q.domains.size then { q with domains := q.domains.setIfInBounds d x }
    else { q with fallback := x }

/-- A task comes to a queue. -/
def insert (q : DispatchQueues) (id : QueueId) (pid slice vtime : Nat) : DispatchQueues :=
  { q.setQueue id ((q.queue id).push ⟨pid, vtime, slice, q.arrivals⟩) with
    arrivals := q.arrivals + 1 }

/-- Take the first task out of a queue. -/
def pop? (q : DispatchQueues) (id : QueueId) : Option (Waiting × DispatchQueues) :=
  match (q.queue id).pop? with
  | some (w, x) => some (w, q.setQueue id x)
  | none => none

/-- Take the first task out of the first of some queues that is not empty. -/
def popFirst? (q : DispatchQueues) : List QueueId → Option (Waiting × DispatchQueues)
  | [] => none
  | id :: ids =>
    match q.pop? id with
    | some r => some r
    | none => q.popFirst? ids

/-- Whether any queue gets shorter when a task is taken out of all queues. -/
def holds (q : DispatchQueues) (pid : Nat) : Bool :=
  q.fallback.shrinks pid || q.domains.any (·.shrinks pid)

/-- Take a task out of all queues. -/
def remove (q : DispatchQueues) (pid : Nat) : DispatchQueues :=
  { q with fallback := q.fallback.drop pid, domains := q.domains.map (·.drop pid) }

/-- The number of tasks in a queue. -/
def length (q : DispatchQueues) (id : QueueId) : Nat := (q.queue id).nr

/-- The number of tasks in all queues. -/
def total (q : DispatchQueues) : Nat := q.domains.foldl (fun n d => n + d.nr) q.fallback.nr

end DispatchQueues

end CoreSteer
