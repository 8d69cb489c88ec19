import CoreSteer.Topology.Basic
import CoreSteer.Text.Quoted
import CoreSteer.Text.Lowercase
/-!
# Shapes of common parts

Where both hardware threads of a core are counted, cores with a large cache number all first
threads before all second ones, and performance cores of hybrid parts have their two threads side
by side.
-/
namespace CoreSteer

/-- The shape of a common part. -/
inductive Preset where
  /-- Two core complexes, the first with the large cache. -/
  | dualCcd (coresPerCcd : Nat) (smt asymmetricBoost : Bool)
  /-- One core complex with the large cache. -/
  | singleCcd (cores : Nat) (smt : Bool)
  /-- Performance cores with two threads each, and efficiency cores. -/
  | hybrid (pcores ecores : Nat)
  /-- Equal cores without a large cache. -/
  | uniform (cores : Nat) (smt : Bool)
deriving DecidableEq, Repr

namespace Preset

/-- The parts that have a name. -/
def table : List (String × Preset) := [
  ("7900x3d", dualCcd 6 true false),
  ("7950x3d", dualCcd 8 true false),
  ("9900x3d", dualCcd 6 true true),
  ("9950x3d", dualCcd 8 true true),
  ("7800x3d", singleCcd 8 true),
  ("9800x3d", singleCcd 8 true),
  ("12600k", hybrid 6 4),
  ("13900k", hybrid 8 16),
  ("14900k", hybrid 8 16),
  ("generic", uniform 8 true)]

/-- The names of the parts. -/
def names : List String := table.map (·.1)

/-- The part of a given name, whatever the case of its ASCII letters. -/
def ofName? (name : String) : Option Preset := table.lookup (Text.lowerAscii name)

/-- What is said of a name that no part has. -/
def unknownMessage (name : String) : String := "unknown topology preset " ++ Text.quote name

/-- A core of a part whose complexes have `perCcd` cores each, `phys` in all. -/
def ccdCore (phys perCcd : Nat) (smt boostSecond cache : Bool) (cpu : Nat) : CoreDesc where
  domain := cpu % phys / perCcd
  subdomain := 0
  node := 0
  sibling := if smt then some (if cpu < phys then cpu + phys else cpu - phys) else none
  lowLatencyCache := cache && cpu % phys / perCcd == 0
  performance := true
  preferredBoost := boostSecond && cpu % phys / perCcd == 1

/-- How many hardware threads a core has. -/
def threadsPerCore (smt : Bool) : Nat := if smt then 2 else 1

/-- The cores of a part made of `ccds` equal complexes. -/
def ccdCores (ccds perCcd : Nat) (smt boostSecond cache : Bool) : Array CoreDesc :=
  let phys := ccds * perCcd
  (Array.range (phys * threadsPerCore smt)).map (ccdCore phys perCcd smt boostSecond cache)

/-- A hardware thread of a performance core; two of these cores boost higher. -/
def performanceCore (cpu : Nat) : CoreDesc where
  domain := 0
  subdomain := 0
  node := 0
  sibling := some (if cpu % 2 = 0 then cpu + 1 else cpu - 1)
  lowLatencyCache := true
  performance := true
  preferredBoost := cpu / 2 == 2 || cpu / 2 == 3

/-- An efficiency core; four of them make a group. -/
def efficiencyCore (i : Nat) : CoreDesc where
  domain := 1
  subdomain := i / 4
  node := 0
  sibling := none
  lowLatencyCache := false
  performance := false
  preferredBoost := false

/-- The description of a part. -/
def blueprint : Preset → Blueprint
  | dualCcd n smt boost =>
    { kind := .cacheDomains
      cores := ccdCores 2 n smt boost true
      freqDomain := if boost then some 1 else none }
  | singleCcd n smt => { kind := .cacheDomains, cores := ccdCores 1 n smt false true }
  | uniform n smt => { kind := .cacheDomains, cores := ccdCores 1 n smt false false }
  | hybrid p e =>
    { kind := .hybrid
      cores := (Array.range (p * 2)).map performanceCore ++ (Array.range e).map efficiencyCore }

/-- The number of hardware threads of a part. -/
def nrCpus : Preset → Nat
  | dualCcd n smt _ => 2 * n * threadsPerCore smt
  | singleCcd n smt => n * threadsPerCore smt
  | hybrid p e => p * 2 + e
  | uniform n smt => n * threadsPerCore smt

theorem size_cores_blueprint (p : Preset) : p.blueprint.cores.size = p.nrCpus := by
  cases p <;> simp [blueprint, nrCpus, ccdCores]

/-- The topology of a part, or what is wrong with it.  A part with too many cores is not laid
out. -/
def build (p : Preset) : Except StartError Topology :=
  if maxCpus < p.nrCpus then .error (.tooManyCores p.nrCpus) else p.blueprint.build

/-- Counting the cores first finds nothing that laying them out would not find. -/
theorem build_eq_build_blueprint (p : Preset) : p.build = p.blueprint.build := by
  unfold build
  split
  · next h =>
    have h0 : p.nrCpus ≠ 0 := Nat.ne_of_gt (Nat.zero_lt_of_lt h)
    exact (Blueprint.build_eq_error_iff.2
      (by simp [Blueprint.fault?, size_cores_blueprint, h0, h])).symm
  · rfl

/-- A part whose second complex also boosts higher, where there are two. -/
def withBoost (boost : Bool) : Preset → Preset
  | dualCcd n smt b => dualCcd n smt (b || boost)
  | p => p

/-- A part with its sizes, written out. -/
def render : Preset → String
  | dualCcd n smt boost =>
    "DualCcdX3d \x7b cores_per_ccd: " ++ s!"{n}, smt: {smt}, asymmetric_boost: {boost}" ++ " \x7d"
  | singleCcd n smt => "SingleCcdX3d \x7b cores: " ++ s!"{n}, smt: {smt}" ++ " \x7d"
  | hybrid p e => "Hybrid \x7b pcores: " ++ s!"{p}, ecores: {e}" ++ " \x7d"
  | uniform n smt => "Uniform \x7b cores: " ++ s!"{n}, smt: {smt}" ++ " \x7d"

end Preset

end CoreSteer
