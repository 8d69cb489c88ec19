import CoreSteer.Json.Record
/-!
# Settings that may change at any time

The policy reads its tunables on every decision.  A cell without tunables reads as the defaults.
-/
namespace CoreSteer

/-- Settings that may change at any time. -/
structure Tunables where
  /-- Bursts below this make a task interactive. -/
  burstThreshold : Nat := 2000000
  /-- How long a task may run at a time. -/
  slice : Nat := 3000000
  /-- Whether gaming tasks are favoured. -/
  gamingMode : Bool := true
  /-- Whether all work goes first to the domain that boosts highest. -/
  workMode : Bool := false
deriving DecidableEq, Repr, Inhabited

namespace Tunables

/-- The fields of tunables. -/
def fieldNames : List String := ["burst_threshold_ns", "slice_ns", "gaming_mode", "work_mode"]

/-- Tunables as a record; a field that is not there is that of `base`. -/
def ofJsonOver? (base : Tunables) (j : Json) : Option Tunables := do
  let r ← j.record? fieldNames
  return {
    burstThreshold := ← r.read? "burst_threshold_ns" Json.word64? base.burstThreshold
    slice := ← r.read? "slice_ns" Json.word64? base.slice
    gamingMode := ← r.read? "gaming_mode" Json.bool? base.gamingMode
    workMode := ← r.read? "work_mode" Json.bool? base.workMode }

/-- Tunables as a record; a field that is not there takes its default. -/
def ofJson? (j : Json) : Option Tunables := ofJsonOver? {} j

/-- Tunables with all their fields. -/
def toJson (t : Tunables) : Json :=
  .obj [("burst_threshold_ns", .nat t.burstThreshold), ("slice_ns", .nat t.slice),
    ("gaming_mode", .bool t.gamingMode), ("work_mode", .bool t.workMode)]

end Tunables

/-- Tunables that are shared, or none. -/
abbrev TunablesCell := Option Tunables

/-- The tunables in a cell. -/
def TunablesCell.load (c : TunablesCell) : Tunables := c.getD {}

end CoreSteer
