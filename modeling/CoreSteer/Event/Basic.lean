import CoreSteer.Task.Name
import CoreSteer.Word
/-!
# Scheduling events

What the policy reports while it runs: a kind, a time, and a few numbers whose meaning depends on
the kind.
-/
namespace CoreSteer

/-- What an event reports. -/
inductive EventKind where
  /-- A task was classified as gaming. -/
  | gamingDetected
  /-- A task moved into the low-latency domain. -/
  | domainMigration
  /-- A core was told to give way to a gaming task. -/
  | preemptKick
  /-- A gaming task waited too long. -/
  | highLatency
  /-- One domain runs many more tasks than another. -/
  | domainImbalance
  /-- A profile was applied because of a task. -/
  | profileMatch
deriving DecidableEq, Repr

namespace EventKind

/-- All kinds, in the order of their numbers. -/
def all : List EventKind :=
  [gamingDetected, domainMigration, preemptKick, highLatency, domainImbalance, profileMatch]

/-- The name of a kind. -/
def name : EventKind → String
  | gamingDetected => "GamingDetected"
  | domainMigration => "DomainMigration"
  | preemptKick => "PreemptKick"
  | highLatency => "HighLatency"
  | domainImbalance => "DomainImbalance"
  | profileMatch => "ProfileMatch"

/-- The name of a kind in JSON. -/
def jsonName : EventKind → String
  | gamingDetected => "gaming_detected"
  | domainMigration => "domain_migration"
  | preemptKick => "preempt_kick"
  | highLatency => "high_latency"
  | domainImbalance => "domain_imbalance"
  | profileMatch => "profile_match"

/-- The number of a kind. -/
def number : EventKind → Nat
  | gamingDetected => 1
  | domainMigration => 2
  | preemptKick => 3
  | highLatency => 4
  | domainImbalance => 5
  | profileMatch => 6

/-- The kind with a given name. -/
def ofName? (s : String) : Option EventKind := (all.map fun k => (k.name, k)).lookup s

end EventKind

/-- A report. -/
structure SchedEvent where
  /-- What is reported. -/
  kind : EventKind
  /-- When it happened. -/
  timestamp : Nat
  /-- The task. -/
  pid : Nat
  /-- The core. -/
  cpu : Nat
  /-- The domain. -/
  domain : Nat := 0
  /-- The other domain, where there are two. -/
  peerDomain : Nat := 0
  /-- A number. -/
  value1 : Nat := 0
  /-- Another number. -/
  value2 : Nat := 0
  /-- The name of the task, where it matters. -/
  taskName : TaskName := .empty
deriving DecidableEq

namespace SchedEvent

/-- A report about a task on a core; core numbers are kept in 32-bit words. -/
def make (kind : EventKind) (timestamp pid cpu : Nat) : SchedEvent :=
  { kind, timestamp, pid, cpu := wrap32 cpu }

/-- The report with a domain, kept in a 32-bit word. -/
def inDomain (e : SchedEvent) (d : Nat) : SchedEvent := { e with domain := wrap32 d }

/-- The report with another domain, kept in a 32-bit word. -/
def withPeer (e : SchedEvent) (d : Nat) : SchedEvent := { e with peerDomain := wrap32 d }

/-- The report with two numbers. -/
def withValues (e : SchedEvent) (v1 v2 : Nat) : SchedEvent := { e with value1 := v1, value2 := v2 }

/-- The report with the name of the task. -/
def named (e : SchedEvent) (n : TaskName) : SchedEvent := { e with taskName := n }

/-- The report as a sentence. -/
def render (e : SchedEvent) : String :=
  let name := e.taskName.text
  let pid := e.pid
  let cpu := e.cpu
  let domain := e.domain
  let peer := e.peerDomain
  let v1 := e.value1
  let v2 := e.value2
  match e.kind with
  | .gamingDetected =>
    let what := if v1 = 2 then "Proton" else "Gaming"
    let gpu := if v2 = 1 then " (GPU)" else ""
    s!"{what} task detected: {name} (PID {pid}) on CPU {cpu}{gpu}"
  | .domainMigration => s!"Low-latency migration: PID {pid} CPU {cpu} (D{v1} -> D{domain})"
  | .preemptKick => s!"Preempt kick: PID {pid} kicked CPU {cpu} on D{domain}"
  | .highLatency => s!"High latency: PID {pid} on CPU {cpu} - {v1}us (threshold {v2}us)"
  | .domainImbalance => s!"Domain imbalance: D{domain} has {v1} tasks vs {v2} on D{peer}"
  | .profileMatch => s!"Profile matched: {name} (PID {pid}) on CPU {cpu}"

end SchedEvent

end CoreSteer
