import CoreSteer.Workload
import Std.Data.ExtTreeMap
/-!
# What others know about tasks

Tables that scanners outside the policy fill: the classes of processes, virtual cores, containers
and control groups, and the ranking of cores by how far they boost.  The policy only reads them.
-/
namespace CoreSteer

/-- The classes of numbered things. -/
abbrev HintTable := Std.ExtTreeMap Nat WorkloadClass

namespace HintTable

/-- The table with the listed entries; of two entries for one key the later one stays. -/
def ofEntries (entries : List (Nat × WorkloadClass)) : HintTable :=
  entries.foldl (fun t e => t.insert e.1 e.2) ∅

end HintTable

/-- The rank of each core, by number; a core without a rank has rank zero. -/
abbrev BoostRanking := Array Nat

/-- The rank of a core. -/
def BoostRanking.rank (r : BoostRanking) (cpu : Nat) : Nat := r.getD cpu 0

/-- All tables that the policy reads. -/
structure Hints where
  /-- Classes by process id. -/
  processes : HintTable := ∅
  /-- Classes by the task id of a thread that runs a virtual core. -/
  vmVcpus : HintTable := ∅
  /-- Classes of containers by process id. -/
  containers : HintTable := ∅
  /-- Classes by control group id. -/
  cgroups : HintTable := ∅
  /-- The ranks of cores. -/
  boost : BoostRanking := #[]

instance : Inhabited Hints := ⟨{}⟩

end CoreSteer
