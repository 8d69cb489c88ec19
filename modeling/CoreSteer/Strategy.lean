import CoreSteer.IdleSearch
/-!
# Where a task is placed

A strategy lists the searches to make for a task, and the first search that claims a core ends the
placement.  Where no search claims one, the platform chooses.

On machines with cache domains, tasks that want low latency go to the low-latency domain.  Other
tasks are kept out of it while it runs gaming tasks.  In work mode, and for batch work, the domain
that boosts highest comes first.  On hybrid machines, tasks that want low latency go to performance
cores, and work that nobody waits for goes to efficiency cores.
-/
namespace CoreSteer

/-- How a placement is counted. -/
inductive Credit where
  /-- It is not counted. -/
  | quiet
  /-- It counts for a counter. -/
  | counter (k : Counter)
  /-- It is a move into the low-latency domain, and is reported. -/
  | migration (source : Nat)
deriving DecidableEq, Repr

/-- A search to make. -/
structure Stage where
  /-- The cores to search. -/
  set : CoreSet
  /-- Whether a core with an idle sibling is asked for. -/
  whole : Bool
  /-- How a placement is counted. -/
  credit : Credit
deriving DecidableEq, Repr

/-- How tasks are placed. -/
inductive Strategy where
  /-- For machines with cache domains. -/
  | cacheDomain
  /-- For hybrid machines. -/
  | hybrid
deriving DecidableEq, Repr

namespace Strategy

/-- The name of a strategy. -/
def name : Strategy → String
  | cacheDomain => "cache-domain"
  | hybrid => "hybrid"

/-- The strategy for a machine. -/
def forTopology (t : Topology) : Strategy := if t.isHybrid then hybrid else cacheDomain

end Strategy

/-- Whether work is moved to efficiency cores. -/
def OffloadPolicy.offloads (p : OffloadPolicy) (s : TaskState) : Bool :=
  !s.flags.gaming && !s.flags.interactive &&
    match p with
    | .disabled => false
    | .aggressive => true
    | .conservative => s.workload == .batch || s.workload == .container

namespace Machine

/-- The searches on a hybrid machine. -/
def hybridStages (m : Machine) (s : TaskState) : List Stage :=
  (if s.flags.wantsLowLatency then [⟨.performance, true, .quiet⟩] else []) ++
    if m.config.offload.offloads s then [⟨.efficiency, false, .quiet⟩] else []

/-- The domain that boosts highest, if that counts. -/
def boostDomain? (m : Machine) : Option Nat :=
  if m.config.asymmetricBoost then m.topology.freqDomain else none

/-- Whether the low-latency domain runs gaming tasks. -/
def lowLatencyBusy (m : Machine) : Bool :=
  (m.load? m.topology.lowLatencyDomain).any fun l => decide (0 < l.gaming)

/-- All domains but one, in order. -/
def otherDomains (m : Machine) (d : Nat) : List Nat :=
  (List.range m.topology.nrDomains).filter (· != d)

/-- How a placement in the low-latency domain is counted. -/
def migrationCredit (m : Machine) (prevDomain : Nat) : Credit :=
  if prevDomain = m.topology.lowLatencyDomain then .quiet else .migration prevDomain

/-- The searches on a machine with cache domains, for a task that was in `prevDomain`: in work
mode the domain that boosts highest; the low-latency domain for tasks that want it; other domains
for tasks that would stay in a low-latency domain with gaming load; the domain that boosts highest
for batch work; the domain the task was in; all others. -/
def cacheStages (m : Machine) (s : TaskState) (prevDomain : Nat) : List Stage :=
  let wants := s.flags.wantsLowLatency
  let workMode := m.tunables.load.workMode
  let lowLatency := m.topology.lowLatencyDomain
  let boost := m.boostDomain?.toList
  let there (whole : Bool) (k : Counter) (d : Nat) : Stage := ⟨.domain d, whole, .counter k⟩
  (if workMode then boost.map (there true .freqDomainPlacements) else []) ++
    (if wants && !workMode then [⟨.domain lowLatency, true, m.migrationCredit prevDomain⟩]
      else []) ++
    (if !wants && m.lowLatencyBusy && prevDomain == lowLatency then
      (m.otherDomains lowLatency).map (there false .compactionOverflows) else []) ++
    (if !wants && s.workload == .batch then boost.map (there false .freqDomainPlacements)
      else []) ++
    [there wants .domainLocal prevDomain] ++
    (m.otherDomains prevDomain).map (there false .domainCross)

/-- The searches of a strategy for a task that was on core `prev`; none on a machine with cache
domains if there is no such core. -/
def stages (m : Machine) (strategy : Strategy) (s : TaskState) (prev : Nat) : List Stage :=
  match strategy with
  | .hybrid => m.hybridStages s
  | .cacheDomain =>
    match m.topology.domainOf? prev with
    | some d => m.cacheStages s d
    | none => []

/-- The report that a task moves into the low-latency domain. -/
def migrationEvent (m : Machine) (task : Task) (s : TaskState) (cpu source : Nat) : SchedEvent :=
  ((SchedEvent.make .domainMigration m.host.now task.pid cpu).inDomain
    m.topology.lowLatencyDomain).withValues source (if s.flags.gaming then 1 else 0)

/-- Count a placement, and report it if it is a move. -/
def creditPlacement (m : Machine) (task : Task) (s : TaskState) (cpu : Nat) : Credit → Machine
  | .quiet => m
  | .counter k => m.bump k
  | .migration source =>
    (m.bump .lowLatencyMigrations).emit (m.migrationEvent task s cpu source)

/-- Make searches in order until one claims a core. -/
def runStages (m : Machine) (task : Task) (s : TaskState) : List Stage → Option Nat × Machine
  | [] => (none, m)
  | g :: rest =>
    match m.pickIdle task g.set g.whole with
    | (some cpu, m) => (some cpu, m.creditPlacement task s cpu g.credit)
    | (none, m) => m.runStages task s rest

/-- Place a task that was on core `prev`. -/
def place (m : Machine) (strategy : Strategy) (task : Task) (s : TaskState) (prev : Nat) :
    Option Nat × Machine :=
  m.runStages task s (m.stages strategy s prev)

end Machine

end CoreSteer
