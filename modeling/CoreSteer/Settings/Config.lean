import CoreSteer.Settings.Tunables
import CoreSteer.Task.Table
import CoreSteer.Text.Quoted
import CoreSteer.Text.Utf8
import CoreSteer.Json.Reader
/-!
# Configuration

Settings that are fixed once an engine runs, and the file that holds them together with the
tunables.  Whatever the file leaves out takes its default.
-/
namespace CoreSteer

/-- What work is moved to efficiency cores. -/
inductive OffloadPolicy where
  /-- None. -/
  | disabled
  /-- Batch work and containers. -/
  | conservative
  /-- All work that is neither gaming nor interactive. -/
  | aggressive
deriving DecidableEq, Repr, Inhabited

namespace OffloadPolicy

/-- The name of a policy. -/
def name : OffloadPolicy → String
  | disabled => "disabled"
  | conservative => "conservative"
  | aggressive => "aggressive"

/-- The policies by name. -/
def jsonNames : List (String × OffloadPolicy) :=
  [disabled, conservative, aggressive].map fun p => (p.name, p)

/-- The policies by name or number. -/
def spellings : List (String × OffloadPolicy) :=
  jsonNames ++ [("0", disabled), ("1", conservative), ("2", aggressive)]

/-- The policy with a name or number. -/
def ofText? (s : String) : Option OffloadPolicy := spellings.lookup s

/-- What is said of a text that names no policy. -/
def unknownMessage (s : String) : String := "invalid e-core offload mode " ++ Text.quote s

/-- A policy by its name. -/
def ofJson? (j : Json) : Option OffloadPolicy := j.choice? jsonNames

end OffloadPolicy

/-- Settings that are fixed once an engine runs. -/
structure EngineConfig where
  /-- What work is moved to efficiency cores. -/
  offload : OffloadPolicy := .conservative
  /-- Whether one domain boosts higher than the others. -/
  asymmetricBoost : Bool := false
  /-- Whether cores with an idle sibling are tried first. -/
  preferIdleSmt : Bool := true
  /-- The core whose tick compares the domains. -/
  monitorCpu : Nat := 0
  /-- How many tasks are tracked. -/
  taskCapacity : Nat := 65536
  /-- How many events may wait. -/
  eventCapacity : Nat := 4096
deriving DecidableEq, Repr, Inhabited

namespace EngineConfig

/-- The fields of the settings. -/
def fieldNames : List String :=
  ["ecore_offload", "asymmetric_boost", "prefer_idle_smt", "monitor_cpu", "task_capacity",
    "event_capacity"]

/-- The settings as a record. -/
def ofJson? (j : Json) : Option EngineConfig := do
  let r ← j.record? fieldNames
  let base : EngineConfig := {}
  return {
    offload := ← r.read? "ecore_offload" OffloadPolicy.ofJson? base.offload
    asymmetricBoost := ← r.read? "asymmetric_boost" Json.bool? base.asymmetricBoost
    preferIdleSmt := ← r.read? "prefer_idle_smt" Json.bool? base.preferIdleSmt
    monitorCpu := ← r.read? "monitor_cpu" Json.word64? base.monitorCpu
    taskCapacity := ← r.read? "task_capacity" Json.word64? base.taskCapacity
    eventCapacity := ← r.read? "event_capacity" Json.word64? base.eventCapacity }

/-- The settings with all their fields. -/
def toJson (c : EngineConfig) : Json :=
  .obj [("ecore_offload", .str c.offload.name), ("asymmetric_boost", .bool c.asymmetricBoost),
    ("prefer_idle_smt", .bool c.preferIdleSmt), ("monitor_cpu", .nat c.monitorCpu),
    ("task_capacity", .nat c.taskCapacity), ("event_capacity", .nat c.eventCapacity)]

end EngineConfig

/-- What a configuration file holds. -/
structure Config where
  /-- The tunables to start with. -/
  tunables : Tunables := {}
  /-- The settings of the engine. -/
  engine : EngineConfig := {}
  /-- The directory of game profiles. -/
  profilesDir : Option String := none
deriving DecidableEq, Repr, Inhabited

/-- What is wrong with the values of a configuration. -/
inductive ConfigFault where
  /-- Tasks could never run. -/
  | zeroSlice
  /-- No task could be tracked, or no event could wait. -/
  | zeroCapacity
  /-- More tasks are to be tracked than the largest table holds. -/
  | taskCapacityTooLarge (n : Nat)
deriving DecidableEq, Repr

/-- The wording of a fault. -/
def ConfigFault.message : ConfigFault → String
  | .zeroSlice => "slice_ns must be non-zero"
  | .zeroCapacity => "task_capacity and event_capacity must be non-zero"
  | .taskCapacityTooLarge n => s!"task_capacity {n} exceeds the maximum of 4194304"

/-- Why a configuration file is refused. -/
inductive ConfigError where
  /-- The file cannot be read, or is not text. -/
  | unreadable
  /-- The text is not that of a configuration. -/
  | malformed
  /-- A value is out of range. -/
  | invalid (fault : ConfigFault)
deriving DecidableEq, Repr

namespace Config

/-- The fields of a configuration. -/
def fieldNames : List String := ["tunables", "engine", "profiles_dir"]

/-- A configuration as a record. -/
def ofJson? (j : Json) : Option Config := do
  let r ← j.record? fieldNames
  return {
    tunables := ← r.read? "tunables" Tunables.ofJson? (some {})
    engine := ← r.read? "engine" EngineConfig.ofJson? (some {})
    profilesDir := ← r.read? "profiles_dir" (Json.orNull Json.text?) (some none) }

/-- A configuration with all its fields. -/
def toJson (c : Config) : Json :=
  .obj [("tunables", c.tunables.toJson), ("engine", c.engine.toJson),
    ("profiles_dir", .ofOption .str c.profilesDir)]

/-- The first value that is out of range: the slice, then the capacities. -/
def fault? (c : Config) : Option ConfigFault :=
  if c.tunables.slice = 0 then some .zeroSlice
  else if c.engine.taskCapacity = 0 ∨ c.engine.eventCapacity = 0 then some .zeroCapacity
  else if maxTaskCapacity < c.engine.taskCapacity then
    some (.taskCapacityTooLarge c.engine.taskCapacity)
  else none

/-- The configuration, if all its values are in range. -/
def validate (c : Config) : Except ConfigFault Config :=
  match c.fault? with
  | some f => .error f
  | none => .ok c

/-- The configuration in a file, given the content of the file if it can be read. -/
def ofFile (content : Option ByteArray) : Except ConfigError Config :=
  match content.bind Text.decode? with
  | none => .error .unreadable
  | some text =>
    match (Json.parse? text).bind ofJson? with
    | none => .error .malformed
    | some c =>
      match c.validate with
      | .error f => .error (.invalid f)
      | .ok c => .ok c

end Config

end CoreSteer
