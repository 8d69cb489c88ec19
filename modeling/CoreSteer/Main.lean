import CoreSteer.CommandLine.Program
import Std.Time.Format
/-!
# The outer layer of the program

The files, the clock and the standard streams of the system that the program runs on.
-/
namespace CoreSteer.CommandLine

/-- The content of a file, if it can be read. -/
def readFile? (path : String) : IO (Option ByteArray) := do
  try return some (← IO.FS.readBinFile path) catch _ => return none

/-- Whether a directory is there after an attempt to make it. -/
def makeDir (path : String) : IO Bool := do
  try
    IO.FS.createDirAll path
    return true
  catch _ => return false

/-- The names and contents of the files in a directory, if it can be read. -/
def listFiles? (path : String) : IO (Option (List (String × ByteArray))) := do
  try
    let entries ← ((← IO.currentDir) / path).readDir
    let files ← entries.toList.mapM fun entry => do
      return (← readFile? entry.path.toString).map fun content => (entry.fileName, content)
    return some (files.filterMap id)
  catch _ => return none

/-- The names and contents of the files in a directory, which is made if it is not there. -/
def openDir (path : String) : IO (Except LaunchError (List (String × ByteArray))) := do
  if !(← makeDir path) then return .error (.noProfilesDir path)
  match ← listFiles? path with
  | none => return .error (.unreadableProfilesDir path)
  | some files => return .ok files

/-- The system that the program runs on. -/
def system : Surroundings IO where
  content? := readFile?
  files := openDir
  elapsed := IO.monoNanosNow
  timeOfDay := return (← Std.Time.PlainTime.now).format "HH:mm:ss"
  pause ns := IO.sleep (ns / 1000000).toUInt32
  print := IO.print
  note := IO.eprintln

end CoreSteer.CommandLine

/-- Do what the command line asks for. -/
def main (args : List String) : IO UInt32 := do
  let config ← IO.getEnv "SCX_LATCACHE_CONFIG"
  let profilesDir ← IO.getEnv "SCX_LATCACHE_PROFILES"
  let status ← CoreSteer.CommandLine.system.run args config profilesDir
  return status.toUInt32
