import CoreSteer.Json.Reader
import CoreSteer.Profile.Basic
import CoreSteer.Text.Layout
import CoreSteer.Text.Lowercase
import CoreSteer.Text.Utf8
import Std.Data.ExtTreeMap
/-!
# A shelf of profiles

The profiles that were found, by name, with two indices: by executable, in small letters, and by
number in the shop.  A later profile takes the place of an earlier one in all three.

A process is matched by its number, then by its executable: a profile of the very same name first,
then the first one, in the order of executables, of which one name contains the other.  A task is
matched like a process of its name, and then by how its name begins.

`Shelf.activate` and `Shelf.deactivate` layer overrides on tunables.  The tunables in force when
the first profile was applied are kept as the base of all layers.
-/
namespace CoreSteer

/-- The profiles that were found. -/
structure Shelf where
  /-- The profiles by name. -/
  profiles : Std.ExtTreeMap String GameProfile := ∅
  /-- The names of profiles by executable, in small letters. -/
  byExe : Std.ExtTreeMap String String := ∅
  /-- The names of profiles by number in the shop. -/
  byAppId : Std.ExtTreeMap Nat String := ∅
  /-- The name of the profile in force. -/
  active : Option String := none
  /-- The tunables in force before the first profile was applied. -/
  base : Option Tunables := none

namespace Shelf

instance : Inhabited Shelf := ⟨{}⟩

/-- Put a profile on the shelf. -/
def add (s : Shelf) (p : GameProfile) : Shelf :=
  { s with
    profiles := s.profiles.insert p.name p
    byExe := match p.exeName with
      | some exe => s.byExe.insert (Text.lower exe) p.name
      | none => s.byExe
    byAppId := match p.appId with
      | some id => s.byAppId.insert id p.name
      | none => s.byAppId }

/-- The shelf with the listed profiles. -/
def ofProfiles (ps : List GameProfile) : Shelf := ps.foldl add {}

/-- Whether a file holds a profile, by its name: the part after the last point is `json`, and
there is something before that point. -/
def isProfileFile (fileName : String) : Bool :=
  let cs := fileName.toList
  ".json".toList.isSuffixOf cs && decide (".json".length < cs.length)

/-- The profile in a file, if its content is one. -/
def profileOfFile? (content : ByteArray) : Option GameProfile :=
  ((Text.decode? content).bind Json.parse?).bind GameProfile.ofJson?

/-- The shelf with the profiles in a directory; a file that holds none is passed over. -/
def ofFiles (files : List (String × ByteArray)) : Shelf :=
  .ofProfiles ((files.filter fun f => isProfileFile f.1).filterMap fun f => profileOfFile? f.2)

/-- The names of all profiles, in order. -/
def names (s : Shelf) : List String := s.profiles.toList.map (·.1)

/-- The number of profiles. -/
def size (s : Shelf) : Nat := s.profiles.size

/-- The profile of a given name. -/
def get? (s : Shelf) (name : String) : Option GameProfile := s.profiles[name]?

/-- Whether one of two names contains the other. -/
def overlaps (a b : String) : Bool := Text.contains a b || Text.contains b a

/-- The profile for an executable name in small letters. -/
def matchExe? (s : Shelf) (exe : String) : Option GameProfile :=
  if exe.isEmpty then none
  else
    match s.byExe[exe]? with
    | some name => s.get? name
    | none =>
      match s.byExe.toList.find? fun e => overlaps exe e.1 with
      | some e => s.get? e.2
      | none => none

/-- The profile for a process. -/
def matchProcess? (s : Shelf) (exe : String) (appId : Option Nat) : Option GameProfile :=
  match appId.bind fun id => s.byAppId[id]? with
  | some name => s.get? name
  | none => s.matchExe? (Text.lower exe)

/-- Whether a profile is for tasks whose names begin as this one does. -/
def fitsTask (name : String) (p : GameProfile) : Bool :=
  p.taskStart.any fun start => !start.isEmpty && Text.beginsWith name start

/-- The profile for a task: as for a process of its name, or else the first one, in the order of
names, for tasks whose names begin so. -/
def matchTask? (s : Shelf) (name : String) : Option GameProfile :=
  match s.matchProcess? name none with
  | some p => some p
  | none => (s.profiles.toList.map (·.2)).find? (fitsTask name)

/-- Put a profile in force, unless it already is or there is none of that name: whether it was put
in force, and what becomes of the tunables. -/
def activate (s : Shelf) (name : String) (cell : TunablesCell) : Bool × Shelf × TunablesCell :=
  if s.active = some name then (false, s, cell)
  else
    match s.get? name with
    | none => (false, s, cell)
    | some p =>
      let base := s.base.getD cell.load
      (true, { s with active := some name, base := some base }, some (p.overrides.apply base))

/-- Put no profile in force, and restore the base if one was. -/
def deactivate (s : Shelf) (cell : TunablesCell) : Shelf × TunablesCell :=
  ({ s with active := none },
    match s.active, s.base with
    | some _, some base => some base
    | _, _ => cell)

end Shelf

end CoreSteer
