import CoreSteer.Ledger
import CoreSteer.Word
/-!
# Counters

What the policy counts.  Most counters only grow, and wrap around as machine words do; two of the
latencies are the largest and the smallest seen.
-/
namespace CoreSteer

/-- What the policy counts. -/
inductive Counter where
  /-- Counts tasks enqueued. -/
  | enqueued
  /-- Counts tasks moved from a dispatch queue to a core. -/
  | dispatched
  /-- Counts tasks placed straight on a core at wake-up. -/
  | directDispatched
  /-- Counts gaming task enqueues. -/
  | gamingEnqueued
  /-- Counts interactive task enqueues. -/
  | interactiveEnqueued
  /-- Counts tasks classified as running in a compatibility layer. -/
  | protonTasks
  /-- Counts classifications of threads that feed the graphics card. -/
  | gpuFeederTasks
  /-- Counts gaming classifications from a process hint. -/
  | hintDetects
  /-- Counts gaming classifications from the name of an ancestor. -/
  | parentChainDetects
  /-- Counts control group hints found. -/
  | cgroupClassifications
  /-- Counts control group hints found that say gaming. -/
  | cgroupGaming
  /-- Counts virtual core hints found. -/
  | vmVcpuTasks
  /-- Counts virtual core hints found that say gaming. -/
  | gamingVmVcpus
  /-- Counts virtual core hints found that say development. -/
  | devVmVcpus
  /-- Counts container hints found. -/
  | containerTasks
  /-- Counts container hints found that say models. -/
  | aiContainerTasks
  /-- Counts moves into the low-latency domain. -/
  | lowLatencyMigrations
  /-- Counts placements in the domain of the previous core. -/
  | domainLocal
  /-- Counts placements in another domain. -/
  | domainCross
  /-- Counts claims of a core whose sibling is idle too. -/
  | smtIdlePicks
  /-- Counts claims of a core that has a rank. -/
  | prefcorePlacements
  /-- Counts tasks kept out of a low-latency domain with gaming load. -/
  | compactionOverflows
  /-- Counts kicks sent for gaming tasks. -/
  | preemptKicks
  /-- Counts placements on performance cores. -/
  | pcorePlacements
  /-- Counts placements on efficiency cores. -/
  | ecoreOffloads
  /-- Counts placements in the domain that boosts highest. -/
  | freqDomainPlacements
  /-- Counts reports of unequal domains. -/
  | imbalanceEvents
  /-- Holds time from enqueue to run, summed. -/
  | latencySumNs
  /-- Holds times from enqueue to run. -/
  | latencyCount
  /-- Holds the longest time from enqueue to run. -/
  | latencyMaxNs
  /-- Holds the shortest time from enqueue to run, zero where there is none. -/
  | latencyMinNs
  /-- Holds time from enqueue to run of gaming tasks, summed. -/
  | gamingLatencySumNs
  /-- Holds times from enqueue to run of gaming tasks. -/
  | gamingLatencyCount
  /-- Holds squares of these times in microseconds, summed. -/
  | gamingLatencySumSqUs
  /-- Counts gaming tasks that waited too long. -/
  | gamingLateFrames
  /-- Counts gaming tasks stopped while they could run. -/
  | gamingPreempted
deriving DecidableEq, Repr

namespace Counter

/-- The counters in order, by name. -/
def table : List (Counter × String) := [
  (enqueued, "enqueued"),
  (dispatched, "dispatched"),
  (directDispatched, "direct_dispatched"),
  (gamingEnqueued, "gaming_enqueued"),
  (interactiveEnqueued, "interactive_enqueued"),
  (protonTasks, "proton_tasks"),
  (gpuFeederTasks, "gpu_feeder_tasks"),
  (hintDetects, "hint_detects"),
  (parentChainDetects, "parent_chain_detects"),
  (cgroupClassifications, "cgroup_classifications"),
  (cgroupGaming, "cgroup_gaming"),
  (vmVcpuTasks, "vm_vcpu_tasks"),
  (gamingVmVcpus, "gaming_vm_vcpus"),
  (devVmVcpus, "dev_vm_vcpus"),
  (containerTasks, "container_tasks"),
  (aiContainerTasks, "ai_container_tasks"),
  (lowLatencyMigrations, "low_latency_migrations"),
  (domainLocal, "domain_local"),
  (domainCross, "domain_cross"),
  (smtIdlePicks, "smt_idle_picks"),
  (prefcorePlacements, "prefcore_placements"),
  (compactionOverflows, "compaction_overflows"),
  (preemptKicks, "preempt_kicks"),
  (pcorePlacements, "pcore_placements"),
  (ecoreOffloads, "ecore_offloads"),
  (freqDomainPlacements, "freq_domain_placements"),
  (imbalanceEvents, "imbalance_events"),
  (latencySumNs, "latency_sum_ns"),
  (latencyCount, "latency_count"),
  (latencyMaxNs, "latency_max_ns"),
  (latencyMinNs, "latency_min_ns"),
  (gamingLatencySumNs, "gaming_latency_sum_ns"),
  (gamingLatencyCount, "gaming_latency_count"),
  (gamingLatencySumSqUs, "gaming_latency_sum_sq_us"),
  (gamingLateFrames, "gaming_late_frames"),
  (gamingPreempted, "gaming_preempted")]

/-- The number of a counter. -/
def index : Counter → Fin 36
  | enqueued => 0
  | dispatched => 1
  | directDispatched => 2
  | gamingEnqueued => 3
  | interactiveEnqueued => 4
  | protonTasks => 5
  | gpuFeederTasks => 6
  | hintDetects => 7
  | parentChainDetects => 8
  | cgroupClassifications => 9
  | cgroupGaming => 10
  | vmVcpuTasks => 11
  | gamingVmVcpus => 12
  | devVmVcpus => 13
  | containerTasks => 14
  | aiContainerTasks => 15
  | lowLatencyMigrations => 16
  | domainLocal => 17
  | domainCross => 18
  | smtIdlePicks => 19
  | prefcorePlacements => 20
  | compactionOverflows => 21
  | preemptKicks => 22
  | pcorePlacements => 23
  | ecoreOffloads => 24
  | freqDomainPlacements => 25
  | imbalanceEvents => 26
  | latencySumNs => 27
  | latencyCount => 28
  | latencyMaxNs => 29
  | latencyMinNs => 30
  | gamingLatencySumNs => 31
  | gamingLatencyCount => 32
  | gamingLatencySumSqUs => 33
  | gamingLateFrames => 34
  | gamingPreempted => 35

instance : Enumerated Counter where
  card := 36
  index := index
  ofIndex i := (table.get (i.cast rfl)).1
  ofIndex_index k := by cases k <;> rfl

/-- The name of a counter. -/
def name (k : Counter) : String := (table.get ((index k).cast rfl)).2

end Counter

/-- The counters and their values. -/
abbrev Counters := Ledger Counter

namespace Counters

/-- Add to a counter, wrapping around. -/
def add (c : Counters) (k : Counter) (n : Nat) : Counters := c.set k (wrap64 (c.get k + n))

/-- Count one more. -/
def bump (c : Counters) (k : Counter) : Counters := c.add k 1

/-- Count one more if there is something to count. -/
def bumpIf (c : Counters) (b : Bool) (k : Counter) : Counters := if b then c.bump k else c

/-- Raise a value to `n` if it is smaller. -/
def raise (c : Counters) (k : Counter) (n : Nat) : Counters := c.set k (max (c.get k) n)

/-- The smaller of a value and `n`, where zero stands for no value. -/
def lesser (value n : Nat) : Nat :=
  if n = 0 then value else if value = 0 ∨ n < value then n else value

/-- Lower a value to `n` if it is larger or there is none; zero is no value. -/
def lower (c : Counters) (k : Counter) (n : Nat) : Counters := c.set k (lesser (c.get k) n)

/-- All counters with their names and values, in order. -/
def entries (c : Counters) : List (String × Nat) :=
  (Enumerated.all Counter).map fun k => (k.name, c.get k)

@[simp] theorem get_add_self (c : Counters) (k : Counter) (n : Nat) :
    (c.add k n).get k = wrap64 (c.get k + n) := by
  simp [add]

theorem get_add_of_ne (c : Counters) {j k : Counter} (n : Nat) (h : j ≠ k) :
    (c.add k n).get j = c.get j := by
  simp [add, Ledger.get_set_of_ne _ _ h]

@[simp] theorem get_bump_self (c : Counters) (k : Counter) :
    (c.bump k).get k = wrap64 (c.get k + 1) := by
  simp [bump]

theorem get_bump_of_ne (c : Counters) {j k : Counter} (h : j ≠ k) :
    (c.bump k).get j = c.get j :=
  get_add_of_ne c 1 h

end Counters

end CoreSteer
