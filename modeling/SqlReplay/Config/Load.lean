import SqlReplay.Config.Check
import SqlReplay.Config.Document
import SqlReplay.Document.Toml.Reader
import SqlReplay.Storage.Disk
import SqlReplay.Text.Natural

/-!
# Loading settings

Settings come from three sources, each over the ones before: defaults, a configuration file, and
variables of the environment. A variable counts only if it is a text that is not blank. The result
is normalised and must be usable.

Defaults depend on the home directory, which is asked for each time that they are made. Where no
home directory is known, each such question is told on the error stream.
-/

namespace SqlReplay

open Storage

/-- The variables of the environment. -/
structure Environment where
  assignments : List (String × Bytes)
deriving Inhabited

namespace Environment

/-- The home directory. -/
def home (env : Environment) : Path :=
  match env.assignments.lookup "HOME" with
  | some bytes => ⟨bytes⟩
  | none => .ofString "/tmp"

/-- Whether no home directory is known. -/
def isHomeless (env : Environment) : Bool := (env.assignments.lookup "HOME").isNone

/-- What is said each time the home directory is asked for and none is known. -/
def homelessWarning : String :=
  "[SRH-CONFIG] WARNING: HOME not set, falling back to /tmp for data paths\n"

/-- What the error stream is told if the home directory is asked for so many times. -/
def warnings (env : Environment) (questions : Nat) : String :=
  if env.isHomeless then String.join (List.replicate questions homelessWarning) else ""

/-- The value of a variable, if it is a text. -/
def text? (env : Environment) (name : String) : Option String :=
  (env.assignments.lookup name).bind Utf8.decode?

/-- The value of a variable, if it is a text that is not blank. -/
def setting? (env : Environment) (name : String) : Option String :=
  (env.text? name).filter fun s => !(Text.trim s.toList).isEmpty

/-- A path from a variable, or the one there is. -/
def path (env : Environment) (name : String) (current : Path) : Path :=
  match env.setting? name with
  | some s => .ofString s
  | none => current

/-- A number from a variable, or the one there is. -/
def number {α : Type} (env : Environment) (name : String)
    (read : List Char → Except Text.NaturalFault α) (current : α) : Except Error α :=
  match env.setting? name with
  | none => .ok current
  | some s => match read (Text.trim s.toList) with
    | .ok n => .ok n
    | .error fault =>
      .error (.configParse "env" (name ++ "=" ++ Text.quoted s ++ ": " ++ fault.message))

end Environment

namespace Config

/-- Settings with those that variables give put in their place. -/
def override (c : Config) (env : Environment) : Except Error Config := do
  let busyTimeoutMs ←
    env.number "SRH_TARGET_BUSY_TIMEOUT_MS" Text.readUInt64 c.target.busyTimeoutMs
  let minWeight ← env.number "SRH_WEIGHTS_MIN_WEIGHT" Text.readUInt32 c.weights.minWeight
  let maxWeight ← env.number "SRH_WEIGHTS_MAX_WEIGHT" Text.readUInt32 c.weights.maxWeight
  let seed ← env.number "SRH_WEIGHTS_SEED" (fun cs => (Text.readUInt64 cs).map some) c.weights.seed
  return {
    target := {
      dataDir := env.path "SRH_TARGET_DATA_DIR" c.target.dataDir
      database := (env.setting? "SRH_TARGET_DATABASE").getD c.target.database
      busyTimeoutMs := busyTimeoutMs }
    replay := { c.replay with logPath := env.path "SRH_REPLAY_LOG_PATH" c.replay.logPath }
    weights := { c.weights with
      outputPath := env.path "SRH_WEIGHTS_OUTPUT_PATH" c.weights.outputPath
      minWeight := minWeight
      maxWeight := maxWeight
      seed := seed }
    files := { c.files with eventLog := env.path "SRH_EVENT_LOG" c.files.eventLog } }

/-- The failure of a text that is no configuration file. -/
def malformedFile : Error := .configParse "toml" "malformed settings"

/-- The settings that a configuration file gives, over defaults. -/
def ofFileText (base : Config) (text : List Char) : Except Error Config :=
  match (Toml.parse? text).bind (ofDocument? .lenient base) with
  | some c => .ok c
  | none => .error malformedFile

/-- The settings of the configuration file at a path, over defaults. -/
def ofFile (base : Config) (disk : Disk) (path : Path) : Except Error Config :=
  match disk.read path with
  | .error fault => .error (.io path fault)
  | .ok content => match Utf8.decode content.bytes with
    | .error _ => .error (.io path .notText)
    | .ok text => ofFileText base text

/-- The settings before variables count. A file that was asked for must exist. -/
def ofSources (env : Environment) (disk : Disk) (asked : Option Path) : Except Error Config :=
  let base := Config.default env.home
  let path := asked.getD base.files.configFile
  let source : Except Error Config :=
    if disk.contains path then ofFile base disk path
    else if asked.isSome then .error (.missingConfig path)
    else .ok base
  source.map fun c => { c with files := { c.files with configFile := path } }

/-! ## Questions for the home directory -/

/-- How often the defaults of a section ask for the home directory. -/
def sectionQuestions (name : String) : Nat :=
  if name = "target" then 1 else if name = "paths" then 2 else 0

/-- How often the defaults of all sections ask for the home directory. -/
def defaultQuestions : Nat := sectionQuestions "target" + sectionQuestions "paths"

/-- Whether what a document holds under a name can be read, or need not be. -/
def readsPart (base : Config) (d : Document) (name : String) : Bool :=
  if name = "target" then (setting d 0 "target" (target? .lenient base.target) base.target).isSome
  else if name = "replay" then
    (setting d 1 "replay" (replay? .lenient base.replay) base.replay).isSome
  else if name = "weights" then
    (setting d 2 "weights" (weights? .lenient base.weights) base.weights).isSome
  else if name = "paths" then (setting d 3 "paths" (files? .lenient base.files) base.files).isSome
  else true

/-- How often reading the parts of a document asks for the home directory. They are read in order,
up to the first that cannot be. The defaults of a section are made once its settings are read, or
before them if they are a list; those of all sections are made in the end. -/
def partQuestions (base : Config) (d : Document) : List String → Nat
  | [] => defaultQuestions
  | name :: rest =>
    if readsPart base d name then sectionQuestions name + partQuestions base d rest
    else if ((d.field? name).bind Document.list?).isSome then sectionQuestions name
    else 0

/-- How often reading the configuration file at a path asks for the home directory. -/
def fileQuestions (base : Config) (disk : Disk) (path : Path) : Nat :=
  match disk.read path with
  | .error _ => 0
  | .ok content => match Utf8.decode content.bytes with
    | .error _ => 0
    | .ok text => match Toml.parse? text with
      | none => 0
      | some d => partQuestions base d d.names

/-- How often finding the path of the configuration file asks for the home directory: the defaults
are made that have the usual one. -/
def pathQuestions (asked : Option Path) : Nat :=
  if asked.isSome then 0 else sectionQuestions "paths"

/-- How often loading settings asks for the home directory. -/
def questions (env : Environment) (disk : Disk) (asked : Option Path) : Nat :=
  let base := Config.default env.home
  let path := asked.getD base.files.configFile
  pathQuestions asked +
    if disk.contains path then fileQuestions base disk path
    else if asked.isSome then 0
    else defaultQuestions

/-! ## Loading -/

/-- Loads settings. -/
def load (env : Environment) (disk : Disk) (asked : Option Path) : Except Error Config := do
  let c ← ofSources env disk asked
  let c ← c.override env
  let c := c.normalize
  c.validate
  return c

end Config

end SqlReplay
