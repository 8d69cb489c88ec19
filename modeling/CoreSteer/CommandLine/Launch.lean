import CoreSteer.CommandLine.Options
import CoreSteer.Random.KeyStream
import CoreSteer.Simulation.Run
import CoreSteer.Topology.Preset
/-!
# From options to a simulation

The configuration file is read first, and options override what it says; then the whole
configuration is checked, the part is looked up, and the simulation is set up.  The first thing
that goes wrong ends the launch.
-/
namespace CoreSteer.CommandLine

/-- Why a simulation cannot be launched. -/
inductive LaunchError where
  /-- The configuration file cannot be read. -/
  | unreadableConfig (path : String)
  /-- The configuration file holds something else. -/
  | malformedConfig (path : String)
  /-- A value of the configuration is out of range. -/
  | invalidConfig (fault : ConfigFault)
  /-- No offload policy has this name. -/
  | unknownOffload (text : String)
  /-- No part has this name. -/
  | unknownPreset (name : String)
  /-- The engine does not start. -/
  | engine (e : StartError)
  /-- The directory of profiles cannot be made. -/
  | noProfilesDir (path : String)
  /-- The directory of profiles cannot be read. -/
  | unreadableProfilesDir (path : String)
deriving DecidableEq, Repr

/-- The wording of an error. -/
def LaunchError.message : LaunchError → String
  | unreadableConfig path => "Failed to read config " ++ path
  | malformedConfig path => "Failed to parse config " ++ path
  | invalidConfig fault => fault.message
  | unknownOffload text => OffloadPolicy.unknownMessage text
  | unknownPreset _ => "valid presets: " ++ ", ".intercalate Preset.names
  | engine e => e.message
  | noProfilesDir path => "Failed to create " ++ path
  | unreadableProfilesDir path => "Failed to read " ++ path

namespace Options

/-- The configuration in a file, whose content is given if it can be read. -/
def configOfFile (path : String) (content : Option ByteArray) : Except LaunchError Config :=
  match Config.ofFile content with
  | .ok c => .ok c
  | .error .unreadable => .error (.unreadableConfig path)
  | .error .malformed => .error (.malformedConfig path)
  | .error (.invalid fault) => .error (.invalidConfig fault)

/-- The tunables with what the options override. -/
def overTunables (o : Options) (t : Tunables) : Tunables where
  burstThreshold := (o.burst.map fun us => wrap64 (us * 1000)).getD t.burstThreshold
  slice := (o.slice.map fun us => wrap64 (us * 1000)).getD t.slice
  gamingMode := t.gamingMode && !o.has .noGamingMode
  workMode := t.workMode || o.has .workMode

/-- The settings of the engine with what the options override. -/
def overEngine (o : Options) (c : EngineConfig) : Except LaunchError EngineConfig :=
  let c :=
    { c with
      asymmetricBoost := c.asymmetricBoost || o.has .asymmetricBoost
      preferIdleSmt := c.preferIdleSmt && !o.has .noSmtPreference }
  match o.offload with
  | none => .ok c
  | some text =>
    match OffloadPolicy.ofText? text with
    | none => .error (.unknownOffload text)
    | some p => .ok { c with offload := p }

/-- The configuration with what the options override, checked. -/
def overConfig (o : Options) (c : Config) : Except LaunchError Config :=
  match o.overEngine c.engine with
  | .error e => .error e
  | .ok engine =>
    let c : Config :=
      { tunables := o.overTunables c.tunables
        engine := engine
        profilesDir := o.profilesDir.or c.profilesDir }
    match c.validate with
    | .error fault => .error (.invalidConfig fault)
    | .ok c => .ok c

/-- The configuration that the options ask for, given what the file that they name holds, if it
can be read. -/
def fullConfig (o : Options) (content : Option ByteArray) : Except LaunchError Config :=
  match o.config with
  | none => o.overConfig {}
  | some path =>
    match configOfFile path content with
    | .error e => .error e
    | .ok c => o.overConfig c

/-- The cores of the part that the options name. -/
def topology (o : Options) (asymmetricBoost : Bool) : Except LaunchError Topology :=
  match Preset.ofName? o.preset with
  | none => .error (.unknownPreset o.preset)
  | some p =>
    match (p.withBoost asymmetricBoost).build with
    | .error e => .error (.engine e)
    | .ok t => .ok t

/-- The simulation that the options ask for with a configuration, without profiles.  A part with a
domain that boosts highest has the engine use it. -/
def simulation (o : Options) (c : Config) : Except LaunchError (Simulation Random.KeyStream) :=
  match o.topology c.engine.asymmetricBoost with
  | .error e => .error e
  | .ok t =>
    let engine := { c.engine with
      asymmetricBoost := c.engine.asymmetricBoost || t.freqDomain.isSome }
    match Engine.start t engine (some c.tunables) {} (.ofTopology t) with
    | .error e => .error (.engine e)
    | .ok e => .ok (.start e (.desktop o.batchJobs) (.ofSeed o.seed.toUInt64))

end Options

end CoreSteer.CommandLine
