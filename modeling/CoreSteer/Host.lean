import CoreSteer.Topology.Basic
import CoreSteer.Task.Basic
import Std.Data.ExtTreeMap
/-!
# The platform that the policy is plugged into

The platform knows the time, which cores are idle, how fast they go and which processes there are.
The policy asks it to claim an idle core, to put a task on a core, and to kick a core; the platform
records what it was asked for until somebody takes the record.

A claim of the policy can be lost to somebody else: `lost` says for each core how many of the next
claims fail although the core is idle.  The platform's own choice of a core loses no claims.
-/
namespace CoreSteer

/-- The performance level of a core at full speed. -/
def fullSpeed : Nat := 1024

/-- What a core is kicked for. -/
structure KickFlags where
  /-- It should wake up. -/
  idle : Bool := false
  /-- It should stop what it runs. -/
  preempt : Bool := false
deriving DecidableEq, Repr

namespace KickFlags

/-- The flags that the two lowest bits of a number stand for. -/
def ofBits (n : Nat) : KickFlags := ⟨n.testBit 0, n.testBit 1⟩

/-- The number that stands for the flags. -/
def bits (f : KickFlags) : Nat := (if f.idle then 1 else 0) + (if f.preempt then 2 else 0)

theorem ofBits_bits (f : KickFlags) : ofBits f.bits = f := by
  rcases f with ⟨_ | _, _ | _⟩ <;> rfl

end KickFlags

/-- A core that was kicked. -/
structure Kick where
  /-- The core. -/
  cpu : Nat
  /-- What for. -/
  flags : KickFlags
deriving DecidableEq, Repr

/-- A task that was put straight on a core. -/
structure Placement where
  /-- The task. -/
  pid : Nat
  /-- The core. -/
  cpu : Nat
  /-- How long the task may run. -/
  slice : Nat
deriving DecidableEq, Repr

/-- A process. -/
structure Process where
  /-- The process that started it. -/
  parent : Nat
  /-- Its name. -/
  name : TaskName
deriving DecidableEq, Repr

/-- The state of the platform. -/
structure Host where
  /-- The time. -/
  now : Nat := 0
  /-- The idle cores. -/
  idle : CpuMask
  /-- The sibling of each core. -/
  siblings : Array (Option Nat)
  /-- The performance level of each core. -/
  perf : Array Nat
  /-- The placements that were asked for, the oldest first. -/
  placements : Array Placement := #[]
  /-- The kicks that were asked for, the oldest first. -/
  kicks : Array Kick := #[]
  /-- The processes, by id. -/
  processes : Std.ExtTreeMap Nat Process := ∅
  /-- How many of the next claims of each core are lost. -/
  lost : Std.ExtTreeMap Nat Nat := ∅

namespace Host

/-- A platform whose cores are all idle and at full speed. -/
def ofTopology (t : Topology) : Host where
  idle := t.allCpus
  siblings := t.cores.map (·.sibling)
  perf := Array.replicate t.nrCpus fullSpeed

/-- Say whether a core is idle. -/
def setIdle (h : Host) (cpu : Nat) (idle : Bool) : Host :=
  { h with idle := if idle then h.idle.set cpu else h.idle.clear cpu }

/-- Set the performance level of a core, at most full speed. -/
def setPerf (h : Host) (cpu level : Nat) : Host :=
  { h with perf := h.perf.setIfInBounds cpu (min level fullSpeed) }

/-- The performance level of a core; zero for a core that does not exist. -/
def perfOf (h : Host) (cpu : Nat) : Nat := h.perf.getD cpu 0

/-- The cores that are idle and whose sibling, if they have one, is idle too. -/
def idleWhole (h : Host) : CpuMask :=
  .ofList (h.idle.toList.filter fun cpu =>
    match h.siblings.getD cpu none with
    | some s => h.idle.test s
    | none => true)

/-- Take an idle core: whether it was idle. -/
def take (h : Host) (cpu : Nat) : Bool × Host :=
  if h.idle.test cpu then (true, { h with idle := h.idle.clear cpu }) else (false, h)

/-- Claim an idle core for the policy: whether the claim succeeds.  A lost claim changes nothing
but the number of claims still to be lost. -/
def claim (h : Host) (cpu : Nat) : Bool × Host :=
  match h.lost[cpu]? with
  | some (n + 1) => (false, { h with lost := h.lost.insert cpu n })
  | _ => h.take cpu

/-- The platform's own choice: the previous core if the task may run there and it is idle, else
the first idle core that the task may run on, else the previous core although it is not idle.  An
idle core is taken; the second part says whether there was one. -/
def choose (h : Host) (task : Task) (prev : Nat) : (Nat × Bool) × Host :=
  if task.allowed.test prev && h.idle.test prev then
    ((prev, true), { h with idle := h.idle.clear prev })
  else
    match (h.idle ∩ task.allowed).toList with
    | cpu :: _ => ((cpu, true), { h with idle := h.idle.clear cpu })
    | [] => ((prev, false), h)

/-- Put a task straight on a core. -/
def place (h : Host) (pid cpu slice : Nat) : Host :=
  { h with placements := h.placements.push ⟨pid, cpu, slice⟩ }

/-- Kick a core. -/
def kick (h : Host) (cpu : Nat) (flags : KickFlags) : Host :=
  { h with kicks := h.kicks.push ⟨cpu, flags⟩ }

/-- Take the placements that were asked for. -/
def takePlacements (h : Host) : List Placement × Host :=
  (h.placements.toList, { h with placements := #[] })

/-- Take the kicks that were asked for. -/
def takeKicks (h : Host) : List Kick × Host := (h.kicks.toList, { h with kicks := #[] })

/-- A process starts. -/
def addProcess (h : Host) (pid parent : Nat) (name : String) : Host :=
  { h with processes := h.processes.insert pid ⟨parent, .ofString name⟩ }

/-- A process ends. -/
def removeProcess (h : Host) (pid : Nat) : Host := { h with processes := h.processes.erase pid }

/-- The id and the name of the parent of a process, if both processes are known. -/
def parent? (h : Host) (pid : Nat) : Option (Nat × TaskName) := do
  let p ← h.processes[pid]?
  let q ← h.processes[p.parent]?
  return (p.parent, q.name)

end Host

end CoreSteer
