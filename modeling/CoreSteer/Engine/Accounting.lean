import CoreSteer.Machine
/-!
# Accounting of runs

How long tasks wait before they run, how long cores are busy and idle, what runs where, how fast
cores go, and whether one domain runs many more tasks than another.
-/
namespace CoreSteer

/-- A gaming task that waited longer is late. -/
def lateFrame : Nat := 1000000

/-- How many times as many tasks make one domain unequal to another. -/
def imbalanceRatio : Nat := 4

namespace CoreStats

/-- A task waited for `latency` before it ran. -/
def wait (s : CoreStats) (latency : Nat) : CoreStats :=
  { s with
    latencySum := wrap64 (s.latencySum + latency)
    latencyCount := wrap64 (s.latencyCount + 1)
    latencyMax := max s.latencyMax latency }

end CoreStats

/-- The time from one clock reading to a later one; none where the first is zero, which stands for
no reading, or is not earlier. -/
def elapsed (since now : Nat) : Nat := if 0 < since then now - since else 0

namespace CoreState

/-- A run begins: the core was idle until now, if it was idle. -/
def beginRun (c : CoreState) (urgency : Urgency) (pid now : Nat) : CoreState where
  run := .begin urgency pid now
  stats := { c.stats with idle := wrap64 (c.stats.idle + elapsed c.perf.lastIdleAt now) }
  perf := { c.perf with lastIdleAt := 0 }

/-- A run ends: the core was busy until now, if it ran this task, and is idle from now on. -/
def endRun (c : CoreState) (pid now : Nat) : CoreState where
  run := (c.run.clearIf pid).2
  stats :=
    { c.stats with
      busy := wrap64 (c.stats.busy + elapsed ((c.run.clearIf pid).1.getD 0) now) }
  perf := { c.perf with lastIdleAt := now }

end CoreState

namespace Counters

/-- A task waited for `latency` before it ran. -/
def wait (c : Counters) (latency : Nat) : Counters :=
  (((c.add .latencySumNs latency).bump .latencyCount).raise .latencyMaxNs latency).lower
    .latencyMinNs latency

/-- A gaming task waited for `latency` before it ran. -/
def waitGaming (c : Counters) (latency : Nat) : Counters :=
  let us := latency / 1000
  (((c.add .gamingLatencySumNs latency).bump .gamingLatencyCount).add .gamingLatencySumSqUs
    (saturate64 (us * us))).bumpIf (decide (lateFrame < latency)) .gamingLateFrames

end Counters

namespace Machine

/-- The report that a gaming task is late. -/
def lateEvent (m : Machine) (task : Task) (latency : Nat) : SchedEvent :=
  (SchedEvent.make .highLatency m.host.now task.pid task.cpu).withValues (latency / 1000)
    (lateFrame / 1000)

/-- Count how long a task waited, and report a gaming task that is late. -/
def accountWait (m : Machine) (task : Task) (gaming : Bool) (latency : Nat) : Machine :=
  let m := { m with counters := m.counters.wait latency }
  let m := m.modifyCore task.cpu fun c => { c with stats := c.stats.wait latency }
  if gaming then
    let m := { m with counters := m.counters.waitGaming latency }
    if lateFrame < latency then m.emit (m.lateEvent task latency) else m
  else m

/-- Change the load of the domain of a core, if the core exists. -/
def modifyLoadAt (m : Machine) (cpu : Nat) (f : DomainLoad → DomainLoad) : Machine :=
  match m.topology.domainOf? cpu with
  | some d => m.modifyLoad d f
  | none => m

/-- A task begins to run on its core. -/
def beginRun (m : Machine) (task : Task) (urgency : Urgency) : Machine :=
  (m.modifyLoadAt task.cpu (·.start (urgency == .gaming))).modifyCore task.cpu
    (·.beginRun urgency task.pid m.host.now)

/-- A task ends its run on its core. -/
def endRun (m : Machine) (task : Task) (gaming : Bool) : Machine :=
  (m.modifyLoadAt task.cpu (·.stop gaming)).modifyCore task.cpu (·.endRun task.pid m.host.now)

/-- The low-latency domain and the domain it is compared with, with their loads. -/
def comparedDomains (m : Machine) : Option ((Nat × Nat) × (Nat × Nat)) := do
  let lowLatency := m.topology.lowLatencyDomain
  let other := if lowLatency = 0 then 1 else 0
  let a ← m.load? lowLatency
  let b ← m.load? other
  return ((lowLatency, a.tasks), (other, b.tasks))

/-- Whether `heavy` tasks are many more than `light` tasks, of which there are some. -/
def outweighs (heavy light : Nat) : Bool :=
  decide (0 < light) && decide (saturate64 (light * imbalanceRatio) ≤ heavy)

/-- Count and report that one domain runs many more tasks than another. -/
def reportImbalance (m : Machine) (heavy light : Nat × Nat) : Machine :=
  let event := SchedEvent.make .domainImbalance m.host.now 0 0
  (m.bump .imbalanceEvents).emit
    (((event.inDomain heavy.1).withPeer light.1).withValues heavy.2 light.2)

/-- Compare the low-latency domain with another one. -/
def checkImbalance (m : Machine) : Machine :=
  match m.comparedDomains with
  | none => m
  | some (a, b) =>
    if outweighs a.2 b.2 then m.reportImbalance a b
    else if outweighs b.2 a.2 then m.reportImbalance b a
    else m

end Machine

end CoreSteer
