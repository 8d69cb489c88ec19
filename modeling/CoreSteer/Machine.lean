import CoreSteer.Event.Stream
import CoreSteer.Gauge.Core
import CoreSteer.Gauge.Counter
import CoreSteer.Hints
import CoreSteer.Host
import CoreSteer.Settings.Config
/-!
# What decisions read and write

Everything that classifying and placing a task depend on, and everything that they leave behind,
apart from what is remembered of the task itself.
-/
namespace CoreSteer

/-- The machine as the policy sees it. -/
structure Machine where
  /-- Its cores. -/
  topology : Topology
  /-- The settings that do not change. -/
  config : EngineConfig
  /-- The settings that may change. -/
  tunables : TunablesCell
  /-- What others know about tasks. -/
  hints : Hints
  /-- The platform. -/
  host : Host
  /-- What the policy counted. -/
  counters : Counters
  /-- What runs in each domain. -/
  loads : Array DomainLoad
  /-- What is known about each core. -/
  cores : Array CoreState
  /-- What the policy reported. -/
  events : EventStream

namespace Machine

/-- A machine on which nothing has happened yet. -/
def make (topology : Topology) (config : EngineConfig) (tunables : TunablesCell) (hints : Hints)
    (host : Host) : Machine where
  topology := topology
  config := config
  tunables := tunables
  hints := hints
  host := host
  counters := .zero
  loads := Array.replicate topology.nrDomains {}
  cores := Array.replicate topology.nrCpus {}
  events := .ofCapacity config.eventCapacity

/-- The load of a domain, if it exists. -/
def load? (m : Machine) (d : Nat) : Option DomainLoad := m.loads[d]?

/-- What is known about a core, if it exists. -/
def core? (m : Machine) (cpu : Nat) : Option CoreState := m.cores[cpu]?

/-- Count one more. -/
def bump (m : Machine) (k : Counter) : Machine := { m with counters := m.counters.bump k }

/-- Report an event. -/
def emit (m : Machine) (e : SchedEvent) : Machine := { m with events := m.events.emit e }

/-- Change the load of a domain, if it exists. -/
def modifyLoad (m : Machine) (d : Nat) (f : DomainLoad → DomainLoad) : Machine :=
  { m with loads := m.loads.modify d f }

/-- Change what is known about a core, if it exists. -/
def modifyCore (m : Machine) (cpu : Nat) (f : CoreState → CoreState) : Machine :=
  { m with cores := m.cores.modify cpu f }

end Machine

end CoreSteer
