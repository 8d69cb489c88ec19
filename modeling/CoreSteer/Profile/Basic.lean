import CoreSteer.Settings.Tunables
/-!
# Game profiles

A profile says how to recognise a game and which tunables to override while it runs.
-/
namespace CoreSteer

/-- What a profile changes about the tunables. -/
structure Overrides where
  /-- The burst threshold, if it changes. -/
  burstThreshold : Option Nat := none
  /-- The slice, if it changes; zero changes nothing. -/
  slice : Option Nat := none
  /-- Whether gaming tasks are favoured, if that changes. -/
  gamingMode : Option Bool := none
  /-- Whether work mode is on, if that changes. -/
  workMode : Option Bool := none
deriving DecidableEq, Repr, Inhabited

namespace Overrides

/-- The fields of overrides. -/
def fieldNames : List String := Tunables.fieldNames

/-- Overrides as a record; whatever is missing or `null` changes nothing. -/
def ofJson? (j : Json) : Option Overrides := do
  let r ← j.record? fieldNames
  return {
    burstThreshold := ← r.read? "burst_threshold_ns" (Json.orNull Json.word64?) (some none)
    slice := ← r.read? "slice_ns" (Json.orNull Json.word64?) (some none)
    gamingMode := ← r.read? "gaming_mode" (Json.orNull Json.bool?) (some none)
    workMode := ← r.read? "work_mode" (Json.orNull Json.bool?) (some none) }

/-- Overrides with all their fields. -/
def toJson (o : Overrides) : Json :=
  .obj [("burst_threshold_ns", .ofOption .nat o.burstThreshold),
    ("slice_ns", .ofOption .nat o.slice), ("gaming_mode", .ofOption .bool o.gamingMode),
    ("work_mode", .ofOption .bool o.workMode)]

/-- The tunables with the changes made. -/
def apply (o : Overrides) (base : Tunables) : Tunables where
  burstThreshold := o.burstThreshold.getD base.burstThreshold
  slice := (o.slice.filter (0 < ·)).getD base.slice
  gamingMode := o.gamingMode.getD base.gamingMode
  workMode := o.workMode.getD base.workMode

theorem apply_none (base : Tunables) : ({} : Overrides).apply base = base := rfl

end Overrides

/-- How to recognise a game, and what to change while it runs. -/
structure GameProfile where
  /-- The name of the profile. -/
  name : String
  /-- The name of the executable, whatever the case of its letters. -/
  exeName : Option String := none
  /-- The number of the game in the shop. -/
  appId : Option Nat := none
  /-- How the name of a task begins. -/
  taskStart : Option String := none
  /-- What to change. -/
  overrides : Overrides := {}
deriving DecidableEq, Repr, Inhabited

namespace GameProfile

/-- The fields of a profile. -/
def fieldNames : List String := ["name", "exe_name", "steam_appid", "comm_pattern", "tunables"]

/-- A profile as a record; all but its name may be missing. -/
def ofJson? (j : Json) : Option GameProfile := do
  let r ← j.record? fieldNames
  return {
    name := ← r.read? "name" Json.text? none
    exeName := ← r.read? "exe_name" (Json.orNull Json.text?) (some none)
    appId := ← r.read? "steam_appid" (Json.orNull Json.word32?) (some none)
    taskStart := ← r.read? "comm_pattern" (Json.orNull Json.text?) (some none)
    overrides := ← r.read? "tunables" Overrides.ofJson? (some {}) }

/-- A profile with all its fields. -/
def toJson (p : GameProfile) : Json :=
  .obj [("name", .str p.name), ("exe_name", .ofOption .str p.exeName),
    ("steam_appid", .ofOption .nat p.appId), ("comm_pattern", .ofOption .str p.taskStart),
    ("tunables", p.overrides.toJson)]

end GameProfile

end CoreSteer
