import CoreSteer.Text.Quoted
import CoreSteer.Text.Utf8
/-!
# Names of tasks

A task's name has few bytes, none of them zero, and may end inside a character.  Ordered tables of
rules say which names belong to games and which to threads that feed the graphics card; the first
rule that matches decides.
-/
namespace CoreSteer

/-- The room for a name, with a zero byte after it. -/
def nameRoom : Nat := 16

/-- The name of a task. -/
structure TaskName where
  /-- The bytes of the name. -/
  bytes : List UInt8
deriving DecidableEq, Repr, Inhabited

namespace TaskName

/-- The name that a buffer holds: the bytes before its first zero, or all of them. -/
def ofBuffer (buffer : List UInt8) : TaskName :=
  ⟨(buffer.take nameRoom).takeWhile (· != 0)⟩

/-- A name cut to its room, and ended by a zero byte if it has one. -/
def ofString (s : String) : TaskName := ofBuffer (s.toUTF8.toList.take (nameRoom - 1))

/-- The name without bytes. -/
def empty : TaskName := ⟨[]⟩

/-- Whether there are no bytes. -/
def isEmpty (n : TaskName) : Bool := n.bytes.isEmpty

/-- The name as text. -/
def text (n : TaskName) : String := String.ofList (Text.decodeLossy n.bytes)

/-- The name between quotes. -/
def quoted (n : TaskName) : String := Text.quote n.text

end TaskName

/-- A pattern for names, compared byte by byte. -/
inductive NamePattern where
  /-- The name begins so. -/
  | begins (s : String)
  /-- The name ends so. -/
  | ends (s : String)
  /-- The name is this. -/
  | equals (s : String)
deriving DecidableEq, Repr

namespace NamePattern

/-- Whether a name fits the pattern. -/
def fits (name : List UInt8) : NamePattern → Bool
  | begins s => s.toUTF8.toList.isPrefixOf name
  | ends s => s.toUTF8.toList.isSuffixOf name
  | equals s => name == s.toUTF8.toList

/-- A pattern, written out. -/
def render : NamePattern → String
  | begins s => "Prefix(" ++ Text.quote s ++ ")"
  | ends s => "Suffix(" ++ Text.quote s ++ ")"
  | equals s => "Exact(" ++ Text.quote s ++ ")"

end NamePattern

/-- What the name of a game tells. -/
inductive GameHit where
  /-- A launcher, a sandbox or a game. -/
  | native
  /-- The layer that runs programs made for another system. -/
  | translated
deriving DecidableEq, Repr

/-- The name of a hit in reports. -/
def GameHit.name : GameHit → String
  | .native => "Native"
  | .translated => "Translated"

/-- Names that fit the pattern belong to games. -/
structure GameRule where
  /-- Which names the rule is for. -/
  pattern : NamePattern
  /-- What such a name tells. -/
  hit : GameHit

/-- A rule, written out. -/
def GameRule.render (r : GameRule) : String := r.pattern.render ++ " " ++ r.hit.name

/-- The rules for the names of games, in order. -/
def gamingRules : List GameRule := [
  ⟨.begins "wine", .translated⟩,
  ⟨.begins "proton", .translated⟩,
  ⟨.begins "steam", .native⟩,
  ⟨.begins "bwrap", .native⟩,
  ⟨.begins "pressure-vessel", .native⟩,
  ⟨.begins "game", .native⟩,
  ⟨.begins "lutris", .native⟩,
  ⟨.begins "heroic", .native⟩,
  ⟨.ends ".exe", .translated⟩]

/-- The names of threads that feed the graphics card. -/
def gpuFeederRules : List NamePattern := [
  .begins "vk",
  .begins "Vk",
  .begins "vulkan",
  .begins "gl",
  .begins "GL",
  .begins "opengl",
  .begins "dxvk",
  .begins "vkd3d",
  .begins "nv_",
  .begins "nvidia",
  .begins "threaded_gl"]

namespace TaskName

/-- What the first rule that the name fits tells. -/
def gameHit? (n : TaskName) : Option GameHit :=
  (gamingRules.find? fun r => r.pattern.fits n.bytes).map (·.hit)

/-- Whether the name is that of a thread that feeds the graphics card. -/
def isGpuFeeder (n : TaskName) : Bool := gpuFeederRules.any fun p => p.fits n.bytes

theorem length_ofString_le (s : String) : (ofString s).bytes.length ≤ nameRoom - 1 := by
  unfold ofString ofBuffer
  refine Nat.le_trans (List.takeWhile_sublist _).length_le ?_
  simp only [List.length_take]
  omega

end TaskName

end CoreSteer
