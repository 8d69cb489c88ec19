import CoreSteer.CommandLine.Word
import CoreSteer.Decimal.Reader
/-!
# Options

What a command line asks for.  Each option may stand there once; a value has to be of the kind that
its option takes.  A request for help is answered as soon as it is read.
-/
namespace CoreSteer.CommandLine

/-- What a command line asks for. -/
structure Options where
  /-- The configuration file. -/
  config : Option String := none
  /-- The part to simulate. -/
  preset : String := "7950x3d"
  /-- The slice in microseconds. -/
  slice : Option Nat := none
  /-- The burst threshold in microseconds. -/
  burst : Option Nat := none
  /-- What work is moved to efficiency cores. -/
  offload : Option String := none
  /-- The directory of game profiles. -/
  profilesDir : Option String := none
  /-- The number of compiler jobs. -/
  batchJobs : Nat := 8
  /-- The seed of the draws. -/
  seed : Nat := 1
  /-- How many seconds to run; without end if not positive. -/
  duration : Float := 0
  /-- The seconds between two boxes of metrics. -/
  stats : Option Float := none
  /-- The switches that are on. -/
  switches : List Switch := []

namespace Options

/-- Whether a switch is on. -/
def has (o : Options) (s : Switch) : Bool := o.switches.contains s

/-- Turn a switch on. -/
def turnOn (o : Options) (s : Switch) : Options := { o with switches := s :: o.switches }

/-- A path; the empty text is none. -/
def path? (value : String) : Option String := if value.isEmpty then none else some value

/-- A whole number that a 64-bit word can hold. -/
def word? (value : String) : Option Nat := (Decimal.readNat? value).filter (· < UInt64.size)

/-- Give an option its value, if that is of the right kind. -/
def put? (o : Options) (s : Setting) (value : String) : Option Options :=
  match s with
  | .config => (path? value).map fun p => { o with config := some p }
  | .preset => some { o with preset := value }
  | .slice => (word? value).map fun n => { o with slice := some n }
  | .burst => (word? value).map fun n => { o with burst := some n }
  | .offload => some { o with offload := some value }
  | .profilesDir => (path? value).map fun p => { o with profilesDir := some p }
  | .batchJobs => (word? value).map fun n => { o with batchJobs := n }
  | .seed => (word? value).map fun n => { o with seed := n }
  | .duration => (Decimal.read? value).map fun x => { o with duration := x }
  | .stats => (Decimal.read? value).map fun x => { o with stats := some x }

/-- The options with paths to use where the command line names none. -/
def withDefaultPaths (o : Options) (config profilesDir : Option String) : Options :=
  { o with config := o.config.or config, profilesDir := o.profilesDir.or profilesDir }

end Options

/-- What to do. -/
inductive Request where
  /-- Explain the options. -/
  | help
  /-- Do what the options say. -/
  | run (o : Options)

namespace Request

/-- Read items one after another, where the options in `seen` stood there before. -/
def ofItems (seen : List Key) (o : Options) : List Item → Except UsageError Request
  | [] => .ok (run o)
  | .fault e :: _ => .error e
  | .switch s :: rest =>
    if s = .help then .ok help
    else if seen.contains (.switch s) then .error (.repeated (.switch s))
    else ofItems (.switch s :: seen) (o.turnOn s) rest
  | .setting s value :: rest =>
    if seen.contains (.setting s) then .error (.repeated (.setting s))
    else
      match o.put? s value with
      | none => .error (.badValue s value)
      | some o => ofItems (.setting s :: seen) o rest

/-- What a command line asks for. -/
def ofWords (words : List String) : Except UsageError Request :=
  ofItems [] {} (Item.ofWords none words)

end Request

/-- The explanation of the options. -/
def helpText : String :=
  "Usage: scx_latcache [OPTIONS]\n\nOptions:\n" ++
    String.join (Key.longNames.map fun e => "  --" ++ e.1 ++ "\n")

end CoreSteer.CommandLine
