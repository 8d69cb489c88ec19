import CoreSteer.Text.Quoted
/-!
# The words of a command line

Options have long names after two hyphens and short names after one.  Short names may stand
together in one word.  The value of an option follows its long name after an equals sign, its short
name with or without one, or stands in the next word, if that does not begin with a hyphen.  Two
hyphens alone end the options.
-/
namespace CoreSteer.CommandLine

/-- Options without a value. -/
inductive Switch where
  /-- Gaming tasks are not favoured. -/
  | noGamingMode
  /-- The domain that boosts highest comes first. -/
  | workMode
  /-- The domain without the large cache boosts higher. -/
  | asymmetricBoost
  /-- Cores with an idle sibling are not tried first. -/
  | noSmtPreference
  /-- The state of the engine is printed at the end. -/
  | dump
  /-- Every event is reported. -/
  | verbose
  /-- The version is printed, and nothing is done. -/
  | version
  /-- The metrics are explained, and nothing is done. -/
  | helpStats
  /-- The options are explained, and nothing is done. -/
  | help
deriving DecidableEq, Repr

/-- Options with a value. -/
inductive Setting where
  /-- The configuration file. -/
  | config
  /-- The part to simulate. -/
  | preset
  /-- The slice in microseconds. -/
  | slice
  /-- The burst threshold in microseconds. -/
  | burst
  /-- What work is moved to efficiency cores. -/
  | offload
  /-- The directory of game profiles. -/
  | profilesDir
  /-- The number of compiler jobs. -/
  | batchJobs
  /-- The seed of the draws. -/
  | seed
  /-- How many seconds to run. -/
  | duration
  /-- The seconds between two boxes of metrics. -/
  | stats
deriving DecidableEq, Repr

/-- An option. -/
inductive Key where
  /-- One without a value. -/
  | switch (s : Switch)
  /-- One with a value. -/
  | setting (s : Setting)
deriving DecidableEq, Repr

namespace Key

/-- The options by their long names. -/
def longNames : List (String × Key) := [
  ("config", setting .config),
  ("preset", setting .preset),
  ("slice-us", setting .slice),
  ("burst-us", setting .burst),
  ("no-gaming-mode", switch .noGamingMode),
  ("work-mode", switch .workMode),
  ("ecore-offload", setting .offload),
  ("asymmetric-boost", switch .asymmetricBoost),
  ("no-smt-preference", switch .noSmtPreference),
  ("profiles-dir", setting .profilesDir),
  ("batch-jobs", setting .batchJobs),
  ("seed", setting .seed),
  ("duration-s", setting .duration),
  ("stats", setting .stats),
  ("dump", switch .dump),
  ("verbose", switch .verbose),
  ("version", switch .version),
  ("help-stats", switch .helpStats),
  ("help", switch .help)]

/-- The options by their short names. -/
def shortNames : List (Char × Key) := [
  ('c', setting .config),
  ('t', setting .preset),
  ('s', setting .slice),
  ('b', setting .burst),
  ('w', switch .workMode),
  ('a', switch .asymmetricBoost),
  ('d', setting .duration),
  ('v', switch .verbose),
  ('V', switch .version),
  ('h', switch .help)]

/-- The long name of an option. -/
def longName (k : Key) : String := ((longNames.find? fun e => e.2 == k).map (·.1)).getD ""

end Key

/-- What is wrong with a command line. -/
inductive UsageError where
  /-- No option has this name. -/
  | unknownOption (name : String)
  /-- A word is neither an option nor the value of one. -/
  | unexpectedWord (word : String)
  /-- The value of an option is missing. -/
  | missingValue (s : Setting)
  /-- An option without a value has one. -/
  | unneededValue (s : Switch)
  /-- An option stands there twice. -/
  | repeated (k : Key)
  /-- A value is not of the kind that its option takes. -/
  | badValue (s : Setting) (value : String)
deriving DecidableEq, Repr

/-- The wording of an error. -/
def UsageError.message : UsageError → String
  | unknownOption name => "unexpected argument " ++ Text.quote name
  | unexpectedWord word => "unexpected argument " ++ Text.quote word
  | missingValue s => "a value is required for --" ++ (Key.setting s).longName
  | unneededValue s => "no value is taken by --" ++ (Key.switch s).longName
  | repeated k => "cannot be used multiple times: --" ++ k.longName
  | badValue s value =>
    "invalid value " ++ Text.quote value ++ " for --" ++ (Key.setting s).longName

/-- The form of a word. -/
inductive Form where
  /-- Two hyphens alone. -/
  | escape
  /-- A long name, with the value after an equals sign. -/
  | long (name : String) (value : Option String)
  /-- Short names. -/
  | short (names : List Char)
  /-- Anything else. -/
  | plain
deriving DecidableEq, Repr

/-- The form of a word; a hyphen alone is nothing special. -/
def Form.ofWord (word : String) : Form :=
  match word.toList with
  | ['-', '-'] => escape
  | '-' :: '-' :: rest =>
    match rest.dropWhile (· != '=') with
    | _ :: value => long (String.ofList (rest.takeWhile (· != '='))) (some (String.ofList value))
    | [] => long (String.ofList rest) none
  | '-' :: c :: rest => short (c :: rest)
  | _ => plain

/-- What a command line says, piece by piece. -/
inductive Item where
  /-- An option without a value. -/
  | switch (s : Switch)
  /-- An option with its value. -/
  | setting (s : Setting) (value : String)
  /-- Something wrong. -/
  | fault (e : UsageError)
deriving DecidableEq, Repr

/-- What short names in one word say, and the option whose value stands in the next word. -/
def Item.ofShort : List Char → List Item × Option Setting
  | [] => ([], none)
  | c :: rest =>
    match Key.shortNames.lookup c with
    | none => ([fault (.unknownOption ("-" ++ c.toString))], none)
    | some (.switch s) =>
      let (items, pending) := ofShort rest
      (switch s :: items, pending)
    | some (.setting s) =>
      match rest with
      | [] => ([], some s)
      | '=' :: value => ([setting s (String.ofList value)], none)
      | value => ([setting s (String.ofList value)], none)

/-- What a long name says, and the option whose value stands in the next word. -/
def Item.ofLong (name : String) (value : Option String) : List Item × Option Setting :=
  match Key.longNames.lookup name, value with
  | none, _ => ([fault (.unknownOption ("--" ++ name))], none)
  | some (.switch s), none => ([switch s], none)
  | some (.switch s), some _ => ([fault (.unneededValue s)], none)
  | some (.setting s), some v => ([setting s v], none)
  | some (.setting s), none => ([], some s)

/-- What a command line says, where `pending` is the option whose value stands in the first
word. -/
def Item.ofWords (pending : Option Setting) : List String → List Item
  | [] => (pending.map fun s => fault (.missingValue s)).toList
  | word :: rest =>
    match pending, Form.ofWord word with
    | some s, .plain => setting s word :: ofWords none rest
    | some s, _ => [fault (.missingValue s)]
    | none, .plain => [fault (.unexpectedWord word)]
    | none, .escape => rest.map fun w => fault (.unexpectedWord w)
    | none, .long name value =>
      let (items, pending) := ofLong name value
      items ++ ofWords pending rest
    | none, .short names =>
      let (items, pending) := ofShort names
      items ++ ofWords pending rest

end CoreSteer.CommandLine
