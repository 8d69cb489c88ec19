import CoreSteer.CpuMask.Basic
import CoreSteer.Task.Name
import CoreSteer.Workload
/-!
# Tasks, and what the policy remembers of them
-/
namespace CoreSteer

/-- What is known of a task on every call. -/
structure Task where
  /-- The id of the thread. -/
  pid : Nat
  /-- The id of its process. -/
  tgid : Nat
  /-- Its name. -/
  name : TaskName
  /-- The id of its control group; zero for none. -/
  cgroup : Nat := 0
  /-- The core it is on. -/
  cpu : Nat := 0
  /-- The cores it may run on. -/
  allowed : CpuMask
deriving DecidableEq

/-- What the policy has found out about a task. -/
structure TaskFlags where
  /-- It counts as gaming, which it only does while gaming is favoured. -/
  gaming : Bool := false
  /-- Its bursts are short. -/
  interactive : Bool := false
  /-- It runs in a compatibility layer. -/
  proton : Bool := false
  /-- It feeds the graphics card. -/
  gpuFeeder : Bool := false
  /-- It should run where latency is low. -/
  wantsLowLatency : Bool := false
  /-- It was classified as gaming. -/
  classGaming : Bool := false
  /-- It was classified. -/
  classified : Bool := false
deriving DecidableEq, Repr, Inhabited

namespace TaskFlags

/-- The flags in order: the name of each, how it is read and how it is written. -/
def table : List (String × (TaskFlags → Bool) × (Bool → TaskFlags → TaskFlags)) := [
  ("GAMING", gaming, fun b f => { f with gaming := b }),
  ("INTERACTIVE", interactive, fun b f => { f with interactive := b }),
  ("PROTON", proton, fun b f => { f with proton := b }),
  ("GPU_FEEDER", gpuFeeder, fun b f => { f with gpuFeeder := b }),
  ("WANTS_LOW_LAT", wantsLowLatency, fun b f => { f with wantsLowLatency := b }),
  ("CLASS_GAMING", classGaming, fun b f => { f with classGaming := b }),
  ("CLASSIFIED", classified, fun b f => { f with classified := b })]

/-- The names of the flags that are set, in order. -/
def names (f : TaskFlags) : List String := (table.filter fun e => e.2.1 f).map (·.1)

/-- Write the flags with the given names. -/
def write (f : TaskFlags) (names : List String) (b : Bool) : TaskFlags :=
  table.foldl (fun f e => if names.contains e.1 then e.2.2 b f else f) f

end TaskFlags

/-- What the policy remembers of a task. -/
structure TaskState where
  /-- Time run since the task last blocked. -/
  burst : Nat := 0
  /-- When its run began; zero while it does not run. -/
  lastRunAt : Nat := 0
  /-- When it was enqueued; zero once it has run. -/
  enqueuedAt : Nat := 0
  /-- When it was classified. -/
  classifiedAt : Nat := 0
  /-- The domain it should run in. -/
  preferredDomain : Option Nat := none
  /-- The domain it was last enqueued from. -/
  lastDomain : Option Nat := none
  /-- The class of its work. -/
  workload : WorkloadClass := .unknown
  /-- What was found out about it. -/
  flags : TaskFlags := {}
deriving DecidableEq, Repr, Inhabited

/-- Forget all that was found out, field by field. -/
def TaskState.reset (s : TaskState) : TaskState :=
  { s with
    burst := 0
    lastRunAt := 0
    enqueuedAt := 0
    classifiedAt := 0
    preferredDomain := none
    lastDomain := none
    workload := .unknown
    flags := {} }

/-- After that a task is like one of which nothing was ever known. -/
@[simp] theorem TaskState.reset_eq (s : TaskState) : s.reset = {} := rfl

end CoreSteer
