import CoreSteer.Dispatch.Queue
/-!
# Where a core looks for work

A core looks first at the queue of its own domain, then at that of the low-latency domain if it
has that cache, then at the queues of all domains in order, and last at the fallback queue; no
queue twice.  A core that does not exist looks at the fallback queue only.
-/
namespace CoreSteer

/-- The queues that a core looks at, before repetitions are left out. -/
def drainCandidates (t : Topology) (core : CoreDesc) : List QueueId :=
  .ofDomain core.domain ::
    ((if core.lowLatencyCache then [.ofDomain t.lowLatencyDomain] else []) ++
      (List.range (min t.nrDomains maxDomains)).map .domain)

/-- The queues that a core looks at, in order. -/
def drainOrder (t : Topology) (cpu : Nat) : List QueueId :=
  match t.core? cpu with
  | some core => (drainCandidates t core ++ [QueueId.fallback]).eraseDups
  | none => [.fallback]

theorem fallback_mem_drainOrder (t : Topology) (cpu : Nat) :
    QueueId.fallback ∈ drainOrder t cpu := by
  unfold drainOrder
  split
  · simp
  · simp

end CoreSteer
