import CoreSteer.Machine
/-!
# What kind of work a task does

The sources are asked from the cheapest to the most expensive, and the first one that says gaming
decides: the name of the task, the hint for its process, the hint for its control group, the names
of its ancestors, the hint for a virtual core.  A task that is not gaming takes its class from the
hints for virtual cores, containers and control groups, and does batch work if there is none.

The answer is kept in the state of the task and is not computed again.  A task without state is
classified each time.
-/
namespace CoreSteer

/-- How many ancestors are asked for their names. -/
def maxAncestors : Nat := 5

/-- What kind of work a task does. -/
structure Classification where
  /-- The task is gaming. -/
  gaming : Bool := false
  /-- The task runs in a compatibility layer. -/
  proton : Bool := false
  /-- The task feeds the graphics card. -/
  gpuFeeder : Bool := false
  /-- The class of the work. -/
  workload : WorkloadClass := .unknown
deriving DecidableEq, Repr

namespace Classification

/-- A gaming task. -/
def ofHit (hit : GameHit) (gpuFeeder : Bool) : Classification where
  gaming := true
  proton := hit == .translated
  gpuFeeder := gpuFeeder
  workload := .gaming

/-- A task that is not gaming. -/
def other (workload : WorkloadClass) : Classification := { workload }

/-- The answer that is kept in the state of a task. -/
def ofState (s : TaskState) : Classification where
  gaming := s.flags.classGaming
  proton := s.flags.proton
  gpuFeeder := s.flags.gpuFeeder
  workload := s.workload

end Classification

/-- Keep an answer in the state of a task. -/
def TaskState.remember (s : TaskState) (r : Classification) (now : Nat) : TaskState :=
  { s with
    classifiedAt := now
    workload := r.workload
    flags :=
      { s.flags with
        classGaming := r.gaming
        proton := r.proton
        gpuFeeder := r.gpuFeeder
        classified := true } }

theorem Classification.ofState_remember (s : TaskState) (r : Classification) (now : Nat) :
    ofState (s.remember r now) = r := rfl

/-! ## The sources -/

/-- The hint for the control group of a task; group zero has none. -/
def Hints.cgroupOf? (h : Hints) (task : Task) : Option WorkloadClass :=
  if task.cgroup = 0 then none else h.cgroups[task.cgroup]?

/-- What the nearest of at most `n` ancestors with a gaming name tells, from the given one on.  The
way up ends where a parent is not known or is the process itself. -/
def ancestorHitFrom (parent? : Nat → Option (Nat × TaskName)) :
    (n : Nat) → Nat × TaskName → Option GameHit
  | 0, _ => none
  | n + 1, (pid, name) =>
    match name.gameHit? with
    | some hit => some hit
    | none =>
      match parent? pid with
      | some (next, nextName) =>
        if next = pid then none else ancestorHitFrom parent? n (next, nextName)
      | none => none

/-- What the nearest ancestor with a gaming name tells. -/
def Host.ancestorHit? (h : Host) (pid : Nat) : Option GameHit :=
  (h.parent? pid).bind (ancestorHitFrom h.parent? maxAncestors)

/-- Count a hint for a control group. -/
def Counters.countCgroup (c : Counters) : Option WorkloadClass → Counters
  | none => c
  | some k => (c.bump .cgroupClassifications).bumpIf (k == .gaming) .cgroupGaming

/-- Count a hint for a virtual core. -/
def Counters.countVm (c : Counters) : Option WorkloadClass → Counters
  | none => c
  | some .vmGaming => (c.bump .vmVcpuTasks).bump .gamingVmVcpus
  | some .vmDev => (c.bump .vmVcpuTasks).bump .devVmVcpus
  | some _ => c.bump .vmVcpuTasks

/-- Count a hint for a container. -/
def Counters.countContainer (c : Counters) : Option WorkloadClass → Counters
  | none => c
  | some k => (c.bump .containerTasks).bumpIf (k == .ai) .aiContainerTasks

/-- Whether a hint says something about work that is not gaming. -/
def WorkloadClass.isSpecific (k : WorkloadClass) : Bool := k != .unknown && k != .gaming

/-! ## The order of the sources -/

/-- The class of a task that is not gaming: from the virtual core, the container or the control
group, whichever says something first. -/
def fallbackClass (h : Hints) (task : Task) (c : Counters) : WorkloadClass × Counters :=
  match h.vmVcpus[task.pid]?.filter WorkloadClass.isSpecific with
  | some k => (k, c)
  | none =>
    let container := h.containers[task.tgid]?
    let c := c.countContainer container
    match container.filter (· != .unknown) with
    | some k => (k, c)
    | none =>
      let cgroup := h.cgroupOf? task
      ((cgroup.filter WorkloadClass.isSpecific).getD .batch, c.countCgroup cgroup)

/-- Ask the sources in order, and count what they say. -/
def cascade (h : Hints) (host : Host) (task : Task) (c : Counters) : Classification × Counters :=
  let feeder := task.name.isGpuFeeder
  let c := c.bumpIf feeder .gpuFeederTasks
  match task.name.gameHit?.or (if feeder then some .native else none) with
  | some hit => (.ofHit hit feeder, c)
  | none =>
    if h.processes[task.tgid]? = some .gaming then (.ofHit .native false, c.bump .hintDetects)
    else
      let cgroup := h.cgroupOf? task
      let c := c.countCgroup cgroup
      if cgroup = some .gaming then (.ofHit .native false, c)
      else
        match host.ancestorHit? task.pid with
        | some hit => (.ofHit hit false, c.bump .parentChainDetects)
        | none =>
          let vm := h.vmVcpus[task.pid]?
          let c := c.countVm vm
          if vm = some .vmGaming then (.ofHit .native false, c)
          else
            let (k, c) := fallbackClass h task c
            (.other k, c)

namespace Machine

/-- Classify a task without looking at its state. -/
def classifyAnew (m : Machine) (task : Task) : Classification × Machine :=
  let (r, c) := cascade m.hints m.host task m.counters
  (r, { m with counters := c.bumpIf r.proton .protonTasks })

/-- The report that a task was classified as gaming. -/
def gamingDetected (m : Machine) (task : Task) (r : Classification) : SchedEvent :=
  ((SchedEvent.make .gamingDetected m.host.now task.tgid task.cpu).withValues
    (if r.proton then 2 else 1) (if r.gpuFeeder then 1 else 0)).named task.name

/-- Classify a task with its state: the answer that is kept there, or a new one, which is then
kept and, if it says gaming, reported. -/
def classify (m : Machine) (task : Task) (s : TaskState) :
    Classification × TaskState × Machine :=
  if s.flags.classified then (.ofState s, s, m)
  else
    let (r, m) := m.classifyAnew task
    (r, s.remember r m.host.now, if r.gaming then m.emit (m.gamingDetected task r) else m)

end Machine

end CoreSteer
