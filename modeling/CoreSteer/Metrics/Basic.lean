import CoreSteer.Engine.Basic
/-!
# Metrics

A snapshot of what the policy counted, for people who watch it.  The difference of two snapshots
says what happened between them: flows are subtracted, mean and deviation of the latencies are
those of the latencies between the two, and everything else is as in the later snapshot.
-/
namespace CoreSteer

/-- What is counted from one snapshot to the next. -/
inductive Flow where
  /-- Tasks that came to a queue. -/
  | enqueued
  /-- Tasks that left a queue for a core. -/
  | dispatched
  /-- Tasks put straight on a core. -/
  | direct
  /-- Gaming tasks that came to a queue. -/
  | gaming
  /-- Interactive tasks that came to a queue. -/
  | interactive
  /-- Tasks found to run in a compatibility layer. -/
  | proton
  /-- Threads found to feed the graphics card. -/
  | gpuFeeders
  /-- Tasks found to be gaming by a hint about their process. -/
  | hintDetects
  /-- Tasks found to be gaming by an ancestor. -/
  | parentChain
  /-- Hints about control groups. -/
  | cgroupHits
  /-- Hints about virtual cores. -/
  | vmVcpus
  /-- Hints about containers. -/
  | containers
  /-- Moves into the low-latency domain. -/
  | lowLatencyMigrations
  /-- Placements in the domain of the previous core. -/
  | domainLocal
  /-- Placements in another domain. -/
  | domainCross
  /-- Claims of a core whose sibling was idle too. -/
  | smtIdle
  /-- Claims of a core with a rank. -/
  | prefcore
  /-- Tasks kept out of the low-latency domain. -/
  | compaction
  /-- Kicks for gaming tasks. -/
  | preemptKicks
  /-- Placements on performance cores. -/
  | pcore
  /-- Placements on efficiency cores. -/
  | ecore
  /-- Placements in the domain that boosts highest. -/
  | freqDomain
  /-- Reports of unequal domains. -/
  | imbalance
  /-- Gaming tasks stopped while they could run. -/
  | gamingPreempted
  /-- Gaming tasks that waited too long. -/
  | lateFrames
deriving DecidableEq, Repr

namespace Flow

/-- The flows in order: the name of each and the counter that it follows. -/
def table : List (Flow × String × Counter) := [
  (enqueued, "enqueued", .enqueued),
  (dispatched, "dispatched", .dispatched),
  (direct, "direct", .directDispatched),
  (gaming, "gaming", .gamingEnqueued),
  (interactive, "interactive", .interactiveEnqueued),
  (proton, "proton", .protonTasks),
  (gpuFeeders, "gpu_feeders", .gpuFeederTasks),
  (hintDetects, "hint_detects", .hintDetects),
  (parentChain, "parent_chain", .parentChainDetects),
  (cgroupHits, "cgroup_hits", .cgroupClassifications),
  (vmVcpus, "vm_vcpus", .vmVcpuTasks),
  (containers, "containers", .containerTasks),
  (lowLatencyMigrations, "ll_migrations", .lowLatencyMigrations),
  (domainLocal, "domain_local", .domainLocal),
  (domainCross, "domain_cross", .domainCross),
  (smtIdle, "smt_idle", .smtIdlePicks),
  (prefcore, "prefcore", .prefcorePlacements),
  (compaction, "compaction", .compactionOverflows),
  (preemptKicks, "preempt_kicks", .preemptKicks),
  (pcore, "pcore", .pcorePlacements),
  (ecore, "ecore", .ecoreOffloads),
  (freqDomain, "freq_domain", .freqDomainPlacements),
  (imbalance, "imbalance", .imbalanceEvents),
  (gamingPreempted, "gaming_preempted", .gamingPreempted),
  (lateFrames, "late_frames", .gamingLateFrames)]

/-- The number of a flow. -/
def index : Flow → Fin 25
  | enqueued => 0
  | dispatched => 1
  | direct => 2
  | gaming => 3
  | interactive => 4
  | proton => 5
  | gpuFeeders => 6
  | hintDetects => 7
  | parentChain => 8
  | cgroupHits => 9
  | vmVcpus => 10
  | containers => 11
  | lowLatencyMigrations => 12
  | domainLocal => 13
  | domainCross => 14
  | smtIdle => 15
  | prefcore => 16
  | compaction => 17
  | preemptKicks => 18
  | pcore => 19
  | ecore => 20
  | freqDomain => 21
  | imbalance => 22
  | gamingPreempted => 23
  | lateFrames => 24

instance : Enumerated Flow where
  card := 25
  index := index
  ofIndex i := (table.get (i.cast rfl)).1
  ofIndex_index k := by cases k <;> rfl

/-- The name of a flow. -/
def name (f : Flow) : String := (table.get ((index f).cast rfl)).2.1

/-- The counter that a flow follows. -/
def counter (f : Flow) : Counter := (table.get ((index f).cast rfl)).2.2

end Flow

/-- Sums over all latencies so far. -/
structure LatencyTotals where
  /-- Times from enqueue to run, summed. -/
  sum : Nat := 0
  /-- How many there are. -/
  count : Nat := 0
  /-- Those of gaming tasks, summed. -/
  gamingSum : Nat := 0
  /-- How many of those there are. -/
  gamingCount : Nat := 0
  /-- The squares of those in microseconds, summed. -/
  gamingSumSq : Nat := 0
deriving DecidableEq, Repr, Inhabited

namespace LatencyTotals

/-- The sums over the latencies since an earlier snapshot. -/
def since (t prev : LatencyTotals) : LatencyTotals where
  sum := t.sum - prev.sum
  count := t.count - prev.count
  gamingSum := t.gamingSum - prev.gamingSum
  gamingCount := t.gamingCount - prev.gamingCount
  gamingSumSq := t.gamingSumSq - prev.gamingSumSq

/-- A 64-bit word as a floating-point number. -/
def real (n : Nat) : Float := n.toUInt64.toFloat

/-- The mean in microseconds of `count` latencies with a given sum. -/
def mean (sum count : Nat) : Float :=
  if count = 0 then 0 else real sum / 1000 / real count

/-- The mean in whole microseconds. -/
def meanMicros (t : LatencyTotals) : Nat := (mean t.sum t.count).toUInt64.toNat

/-- The mean of the gaming latencies in whole microseconds. -/
def gamingMeanMicros (t : LatencyTotals) : Nat := (mean t.gamingSum t.gamingCount).toUInt64.toNat

/-- The standard deviation of the gaming latencies in microseconds; zero where rounding would make
the variance negative. -/
def jitter (t : LatencyTotals) : Float :=
  if t.gamingCount = 0 then 0
  else
    let m := mean t.gamingSum t.gamingCount
    let variance := real t.gamingSumSq / real t.gamingCount - m * m
    if 0 < variance then variance.sqrt else 0

end LatencyTotals

/-- A snapshot, or the difference of two. -/
structure Metrics where
  /-- What was counted. -/
  flows : Ledger Flow := .zero
  /-- The mean time from enqueue to run in microseconds. -/
  latencyAvg : Nat := 0
  /-- The longest such time. -/
  latencyMax : Nat := 0
  /-- The shortest such time. -/
  latencyMin : Nat := 0
  /-- The mean for gaming tasks. -/
  gamingLatencyAvg : Nat := 0
  /-- The standard deviation for gaming tasks. -/
  gamingJitter : Float := 0
  /-- How many events were dropped. -/
  eventsDropped : Nat := 0
  /-- How many tasks are tracked. -/
  tasks : Nat := 0
  /-- How many tasks wait. -/
  queued : Nat := 0
  /-- What runs in each domain. -/
  domains : String := ""
  /-- The sums over all latencies so far. -/
  totals : LatencyTotals := {}

namespace Metrics

instance : Inhabited Metrics := ⟨{}⟩

/-- What runs in each domain; the low-latency domain has a star. -/
def renderLoads (lowLatency : Nat) (loads : List DomainLoad) : String :=
  " ".intercalate (loads.zipIdx.map fun (l, d) =>
    let mark := if d = lowLatency then "*" else ""
    let tasks := l.tasks
    let gaming := l.gaming
    s!"D{d}{mark}:{tasks}/{gaming}")

/-- The sums that an engine has kept. -/
def totalsOf (c : Counters) : LatencyTotals where
  sum := c.get .latencySumNs
  count := c.get .latencyCount
  gamingSum := c.get .gamingLatencySumNs
  gamingCount := c.get .gamingLatencyCount
  gamingSumSq := c.get .gamingLatencySumSqUs

/-- The metrics with the latencies of given sums. -/
def withLatencies (m : Metrics) (t : LatencyTotals) : Metrics :=
  { m with
    latencyAvg := t.meanMicros
    gamingLatencyAvg := t.gamingMeanMicros
    gamingJitter := t.jitter }

/-- The snapshot of an engine. -/
def ofEngine (e : Engine) : Metrics :=
  let totals := totalsOf e.counters
  let m : Metrics :=
    { flows := .ofFn fun f => e.counters.get f.counter
      latencyMax := e.counters.get .latencyMaxNs / 1000
      latencyMin := e.counters.get .latencyMinNs / 1000
      eventsDropped := e.events.dropped
      tasks := e.nrTasks
      queued := e.queuedTotal
      domains := renderLoads e.topology.lowLatencyDomain e.loads.toList
      totals := totals }
  m.withLatencies totals

/-- What happened since an earlier snapshot. -/
def since (m prev : Metrics) : Metrics :=
  { m with flows := .ofFn fun f => m.flows.get f - prev.flows.get f }.withLatencies
    (m.totals.since prev.totals)

@[simp] theorem get_flows_since (m prev : Metrics) (f : Flow) :
    (m.since prev).flows.get f = m.flows.get f - prev.flows.get f := by
  simp [since, withLatencies]

@[simp] theorem get_flows_ofEngine (e : Engine) (f : Flow) :
    (ofEngine e).flows.get f = e.counters.get f.counter := by
  simp [ofEngine, withLatencies]

end Metrics

end CoreSteer
