import CoreSteer.CommandLine.Session
import CoreSteer.Metrics.Glossary
/-!
# The program

What the program does, step by step, in surroundings that are left open: files, a clock, and places
to print to.  The outer layer supplies them; nothing is decided there.
-/
namespace CoreSteer.CommandLine

/-- What the program needs from the outside. -/
structure Surroundings (m : Type → Type) where
  /-- The content of a file, if it can be read. -/
  content? : String → m (Option ByteArray)
  /-- The names and contents of the files in a directory, which is made if it is not there. -/
  files : String → m (Except LaunchError (List (String × ByteArray)))
  /-- The nanoseconds since the program began. -/
  elapsed : m Nat
  /-- The time of day. -/
  timeOfDay : m String
  /-- Let some nanoseconds pass. -/
  pause : Nat → m Unit
  /-- Print text. -/
  print : String → m Unit
  /-- Print a line beside the output. -/
  note : String → m Unit

namespace Surroundings

variable {m : Type → Type} [Monad m]

/-- The simulation that the options ask for: the configuration first, then the simulation, and the
profiles last.  No directory has an empty path. -/
def launch (w : Surroundings m) (o : Options) :
    m (Except LaunchError (Simulation Random.KeyStream)) := do
  let content ← match o.config with
    | some path => w.content? path
    | none => pure none
  match o.fullConfig content with
  | .error e => return .error e
  | .ok c =>
    match o.simulation c, c.profilesDir with
    | .error e, _ => return .error e
    | .ok s, none => return .ok s
    | .ok s, some path =>
      if path.isEmpty then return .error (.unreadableProfilesDir path)
      else return (← w.files path).map fun files => s.withShelf (.ofFiles files)

/-- More steps than any session takes. -/
def mostSteps : Nat := 4611686018427387904

/-- Run a session that began at a clock reading to its end, or for a number of steps. -/
def runSession (w : Surroundings m) (begun : Nat) : (steps : Nat) → Session → m Session
  | 0, s => return s.finish 0
  | steps + 1, s => do
    let s := s.step
    let elapsed := (← w.elapsed) - begun
    let (box, s) := s.report elapsed (← w.timeOfDay)
    match box with
    | some text => w.print text
    | none => pure ()
    if s.isOver elapsed then return s.finish elapsed
    else
      w.pause stepLength
      w.runSession begun steps s

/-- Show a simulation for as long as the options ask. -/
def present (w : Surroundings m) (o : Options) (simulation : Simulation Random.KeyStream) :
    m UInt8 := do
  match Session.start? o simulation with
  | none =>
    w.note "a length of time is out of range"
    return badLengthStatus
  | some s =>
    let s ← w.runSession (← w.elapsed) mostSteps s
    w.note s.tally.render
    if o.has .dump then w.print s.simulation.engine.dump
    return successStatus

/-- Do what the options say. -/
def runOptions (w : Surroundings m) (o : Options) : m UInt8 := do
  if o.has .version then
    w.print versionText
    return successStatus
  else if o.has .helpStats then
    w.print Metrics.glossary
    return successStatus
  else
    match ← w.launch o with
    | .error e =>
      w.note ("Error: " ++ e.message)
      return launchErrorStatus
    | .ok simulation => w.present o simulation

/-- Do what a command line asks for, where two paths are given for options that name none; the
status says how that went. -/
def run (w : Surroundings m) (words : List String) (config profilesDir : Option String) :
    m UInt8 := do
  match Request.ofWords words with
  | .error e =>
    w.note ("error: " ++ e.message)
    return usageErrorStatus
  | .ok .help =>
    w.print helpText
    return successStatus
  | .ok (.run o) => w.runOptions (o.withDefaultPaths config profilesDir)

end Surroundings

end CoreSteer.CommandLine
