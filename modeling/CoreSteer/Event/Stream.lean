import CoreSteer.Event.Basic
/-!
# The stream of events

Events wait in a queue of limited length until they are read, in the order in which they happened.
An event that finds the queue full is dropped.  How many were taken in and how many were dropped is
counted.
-/
namespace CoreSteer

/-- Events that wait to be read. -/
structure EventStream where
  /-- How many events may wait. -/
  capacity : Nat
  /-- The events, the oldest first. -/
  waiting : Array SchedEvent := #[]
  /-- How many events were taken in. -/
  emitted : Nat := 0
  /-- How many events were dropped. -/
  dropped : Nat := 0

namespace EventStream

/-- A stream without events; at least one event may wait. -/
def ofCapacity (n : Nat) : EventStream := { capacity := max n 1 }

instance : Inhabited EventStream := ⟨ofCapacity 1⟩

/-- Whether a further event would be dropped. -/
def isFull (s : EventStream) : Bool := decide (s.capacity ≤ s.waiting.size)

/-- Take an event in, or drop it. -/
def emit (s : EventStream) (e : SchedEvent) : EventStream :=
  if s.isFull then { s with dropped := wrap64 (s.dropped + 1) }
  else { s with waiting := s.waiting.push e, emitted := wrap64 (s.emitted + 1) }

/-- Read the oldest event. -/
def pop? (s : EventStream) : Option (SchedEvent × EventStream) :=
  match s.waiting[0]? with
  | some e => some (e, { s with waiting := s.waiting.eraseIdxIfInBounds 0 })
  | none => none

/-- Read all events. -/
def drain (s : EventStream) : List SchedEvent × EventStream :=
  (s.waiting.toList, { s with waiting := #[] })

/-- The number of events that wait. -/
def length (s : EventStream) : Nat := s.waiting.size

end EventStream

/-- How many events of each kind were read. -/
structure EventTally where
  /-- Classifications as gaming. -/
  gaming : Nat := 0
  /-- Moves into the low-latency domain. -/
  migrations : Nat := 0
  /-- Kicks. -/
  kicks : Nat := 0
  /-- Long waits. -/
  latency : Nat := 0
  /-- Unequal domains. -/
  imbalance : Nat := 0
  /-- Applied profiles. -/
  profiles : Nat := 0
deriving DecidableEq, Repr, Inhabited

namespace EventTally

/-- Count an event. -/
def record (t : EventTally) (e : SchedEvent) : EventTally :=
  match e.kind with
  | .gamingDetected => { t with gaming := wrap64 (t.gaming + 1) }
  | .domainMigration => { t with migrations := wrap64 (t.migrations + 1) }
  | .preemptKick => { t with kicks := wrap64 (t.kicks + 1) }
  | .highLatency => { t with latency := wrap64 (t.latency + 1) }
  | .domainImbalance => { t with imbalance := wrap64 (t.imbalance + 1) }
  | .profileMatch => { t with profiles := wrap64 (t.profiles + 1) }

/-- The counts in one line. -/
def render (t : EventTally) : String :=
  let ⟨gaming, migrations, kicks, latency, imbalance, profiles⟩ := t
  s!"Events: gaming={gaming}, migrations={migrations}, kicks={kicks}, latency={latency}, " ++
    s!"imbalance={imbalance}, profiles={profiles}"

end EventTally

end CoreSteer
