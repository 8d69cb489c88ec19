/-!
# Why an engine cannot start

The causes for which a topology is refused or a dispatch queue cannot be made.  Once an engine
has started, nothing fails any more.
-/
namespace CoreSteer

/-- Why no memory was set aside for a dispatch queue. -/
inductive MemoryRefusal where
  /-- The number of bytes is beyond what a machine word counts. -/
  | uncountable
  /-- The machine does not have that many bytes. -/
  | unavailable
deriving DecidableEq, Repr

/-- The wording of a refusal. -/
def MemoryRefusal.message : MemoryRefusal → String
  | .uncountable =>
    "memory allocation failed because the computed capacity exceeded the collection's maximum"
  | .unavailable => "memory allocation failed because the memory allocator returned an error"

/-- A cause for which an engine cannot start. -/
inductive StartError where
  /-- There are no cores. -/
  | noCores
  /-- There are more cores than a mask can hold. -/
  | tooManyCores (count : Nat)
  /-- A core names a domain that is out of range. -/
  | domainOutOfRange (cpu domain : Nat)
  /-- A core names a sibling that is no other core. -/
  | noSuchSibling (cpu sibling : Nat)
  /-- No core belongs to the low-latency domain. -/
  | emptyLowLatencyDomain (domain : Nat)
  /-- No core belongs to the high-frequency domain. -/
  | emptyFrequencyDomain (domain : Nat)
  /-- No memory was set aside for a dispatch queue. -/
  | noQueueMemory (queue : Nat) (refusal : MemoryRefusal)
deriving DecidableEq, Repr

/-- The wording of a cause. -/
def StartError.message : StartError → String
  | .noCores => "topology has no cores"
  | .tooManyCores count => s!"topology has {count} cores, at most 256 are supported"
  | .domainOutOfRange cpu domain =>
    s!"core {cpu} names domain {domain}, at most 8 domains are supported"
  | .noSuchSibling cpu sibling => s!"core {cpu} names SMT sibling {sibling} which does not exist"
  | .emptyLowLatencyDomain domain => s!"low-latency domain {domain} has no cores"
  | .emptyFrequencyDomain domain => s!"frequency domain {domain} has no cores"
  | .noQueueMemory queue refusal =>
    s!"failed to create dispatch queue {queue}: " ++ refusal.message

end CoreSteer
