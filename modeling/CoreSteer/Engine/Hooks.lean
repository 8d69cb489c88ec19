import CoreSteer.Classification
import CoreSteer.Engine.Accounting
import CoreSteer.Engine.Basic
import CoreSteer.Preemption
import CoreSteer.Task.Burst
/-!
# What the engine does when something happens to a task

The platform calls the engine when a task wakes up, when it has to wait, when a core has nothing to
run, when a task begins and ends a run, on every tick of a core, and when a task is gone.
-/
namespace CoreSteer

namespace Machine

/-- Put a task straight on a core. -/
def placeDirectly (m : Machine) (task : Task) (cpu : Nat) : Machine :=
  { m with host := m.host.place task.pid cpu m.tunables.load.slice }.bump .directDispatched

/-- Classify a task and derive from that what it wants: a gaming task wants low latency while
gaming is favoured, and so does an interactive one. -/
def refresh (m : Machine) (task : Task) (s : TaskState) (prev : Nat) : TaskState × Machine :=
  let t := m.tunables.load
  let (r, s, m) := m.classify task s
  let gaming := t.gamingMode && r.gaming
  let interactive := isInteractive gaming s.burst t.burstThreshold
  let wants := gaming || (interactive && t.gamingMode)
  ({ s with
      flags :=
        { s.flags with gaming := gaming, interactive := interactive, wantsLowLatency := wants }
      preferredDomain :=
        if wants then some m.topology.lowLatencyDomain else m.topology.domainOf? prev }, m)

/-- Kick the core of a domain that gives way to a gaming task, and report that. -/
def kickVictim (m : Machine) (task : Task) (domain : Nat) : Machine :=
  match m.victim? domain .gaming with
  | none => m
  | some cpu =>
    ({ m with host := m.host.kick cpu { preempt := true } }.bump .preemptKicks).emit
      (((SchedEvent.make .preemptKick m.host.now task.pid cpu).inDomain domain).withValues
        Urgency.gaming.level 0)

/-- Count that a task is enqueued. -/
def countEnqueue (m : Machine) (task : Task) : Machine :=
  (m.bump .enqueued).modifyCore task.cpu fun c =>
    { c with stats := { c.stats with enqueued := wrap64 (c.stats.enqueued + 1) } }

/-- Count that a gaming task is enqueued. -/
def countGamingEnqueue (m : Machine) (task : Task) : Machine :=
  (m.bump .gamingEnqueued).modifyCore task.cpu fun c =>
    { c with stats := { c.stats with gamingTasks := wrap64 (c.stats.gamingTasks + 1) } }

/-- Count what kind of task is enqueued.  A gaming task that wants low latency has a core give way. -/
def attend (m : Machine) (task : Task) (flags : TaskFlags) : Machine :=
  if flags.gaming then
    let m := m.countGamingEnqueue task
    if flags.wantsLowLatency then m.kickVictim task m.topology.lowLatencyDomain else m
  else if flags.interactive then m.bump .interactiveEnqueued
  else m

/-- The queue for a task that is not tracked: that of its domain. -/
def plainQueue (m : Machine) (task : Task) : QueueId :=
  match m.topology.domainOf? task.cpu with
  | some d => .ofDomain d
  | none => .fallback

/-- The queue for a tracked task: that of the low-latency domain if it wants low latency, and that
of its domain otherwise. -/
def queueFor (m : Machine) (task : Task) (s : TaskState) : QueueId :=
  match m.topology.domainOf? task.cpu with
  | some d => .ofDomain (if s.flags.wantsLowLatency then m.topology.lowLatencyDomain else d)
  | none => .fallback

end Machine

/-- How urgent a task is while it runs; a task that is not tracked does batch work. -/
def TaskState.urgency : Option TaskState → Urgency
  | none => .batch
  | some s =>
    if s.flags.gaming then .gaming else if s.flags.interactive then .interactive else .batch

/-- Whether a task is tracked and counts as gaming. -/
def TaskState.isGaming (s : Option TaskState) : Bool := s.any (·.flags.gaming)

namespace Engine

/-- A task that was on core `prev` goes to the core that was found for it, or to the one that the
platform chooses; it is put there at once if that core was idle. -/
def settle (e : Engine) (task : Task) (prev : Nat) : Option Nat → Nat × Engine
  | some cpu => (cpu, e.onMachine (·.placeDirectly task cpu))
  | none =>
    let ((cpu, idle), host) := e.host.choose task prev
    let e := e.onHost fun _ => host
    (cpu, if idle then e.onMachine (·.placeDirectly task cpu) else e)

/-- A task that was on core `prev` wakes up: the core for it.  It is put there at once if the core
was idle.  A task that cannot be tracked, or comes from a core that does not exist, stays where it
was. -/
def selectCpu (e : Engine) (task : Task) (prev : Nat) : Nat × Engine :=
  let e := e.onTasks (·.track task.pid)
  match e.task? task.pid, e.topology.core? prev with
  | some s, some _ =>
    let (s, m) := e.toMachine.refresh task s prev
    let (found, m) := m.place e.strategy task s prev
    ((e.onTasks (·.put task.pid s)).onMachine fun _ => m).settle task prev found
  | _, _ => (prev, e)

/-- A task comes to a queue with a slice of the current length. -/
def queueTask (e : Engine) (id : QueueId) (pid vtime : Nat) : Engine :=
  { e with queues := e.queues.insert id pid e.tunables.load.slice vtime }

/-- A task has to wait.  A gaming task that wants low latency has a core give way. -/
def enqueue (e : Engine) (task : Task) : Engine :=
  let e := (e.onMachine (·.countEnqueue task)).onTasks (·.track task.pid)
  match e.task? task.pid with
  | none => e.queueTask (e.plainQueue task) task.pid 0
  | some s =>
    let s :=
      { s with
        enqueuedAt := e.host.now
        lastDomain := (e.topology.domainOf? task.cpu).or s.lastDomain }
    let e := e.onTasks (·.put task.pid s)
    let id := e.queueFor task s
    let vtime := queueKey s.flags.gaming s.flags.interactive s.burst
    (e.onMachine (·.attend task s.flags)).queueTask id task.pid vtime

/-- A core has nothing to run: the first task of the first queue, of those that it looks at, that
is not empty. -/
def dispatch (e : Engine) (cpu : Nat) : Option Waiting × Engine :=
  let e := e.onMachine (·.modifyCore cpu fun c =>
    { c with stats := { c.stats with dispatched := wrap64 (c.stats.dispatched + 1) } })
  match e.queues.popFirst? (drainOrder e.topology cpu) with
  | some (w, queues) => (some w, { e with queues := queues }.onMachine (·.bump .dispatched))
  | none => (none, e)

/-- A task begins to run on its core.  The time it waited is counted once for each time it was
enqueued; a core that does not exist is not accounted for. -/
def running (e : Engine) (task : Task) : Engine :=
  let now := e.host.now
  let known := e.task? task.pid
  let e :=
    match known with
    | none => e
    | some s =>
      let e := e.onTasks (·.put task.pid { s with lastRunAt := now, enqueuedAt := 0 })
      if 0 < s.enqueuedAt then
        e.onMachine (·.accountWait task s.flags.gaming (now - s.enqueuedAt))
      else e
  e.onMachine (·.beginRun task (TaskState.urgency known))

/-- A task ends its run on its core; `runnable` says that it could go on. -/
def stopping (e : Engine) (task : Task) (runnable : Bool) : Engine :=
  let now := e.host.now
  let known := e.task? task.pid
  let gaming := TaskState.isGaming known
  let e := e.onTasks (·.modify task.pid (·.stop now runnable))
  e.onMachine fun m =>
    (if gaming && runnable then m.bump .gamingPreempted else m).endRun task gaming

/-- A tick of a core: its level is sampled, and one core compares the domains. -/
def tick (e : Engine) (cpu : Nat) : Engine :=
  match e.core? cpu with
  | none => e
  | some _ =>
    let level := e.host.perfOf cpu
    let now := e.host.now
    e.onMachine fun m =>
      let m := m.modifyCore cpu fun c => { c with perf := c.perf.sample level now }
      if cpu = m.config.monitorCpu ∧ 2 ≤ m.topology.nrDomains then m.checkImbalance else m

/-- A profile was applied because of a task. -/
def noteProfileMatch (e : Engine) (task : Task) : Engine :=
  e.onMachine fun m =>
    m.emit ((SchedEvent.make .profileMatch m.host.now task.pid task.cpu).named task.name)

/-- A task is gone: it is forgotten, and taken out of all queues. -/
def taskExit (e : Engine) (pid : Nat) : Engine :=
  { e with queues := e.queues.remove pid }.onTasks (·.remove pid)

end Engine

end CoreSteer
