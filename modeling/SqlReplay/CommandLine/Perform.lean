import SqlReplay.CommandLine.Answer
import SqlReplay.Event.Journal
import SqlReplay.Replay.Configured
import SqlReplay.Weights.Sampler

/-!
# Carrying out a command

A command loads the settings, puts those of the command line in their place, and acts on the disk.
Commands that change something write a journal of events, which is opened once the settings are
known to be usable. Where no home directory is known, this is told while the settings are loaded; if
it cannot be, the program panics before it has done anything.
-/

namespace SqlReplay.CommandLine

open Storage

/-- What surrounds a run. -/
structure Circumstances where
  environment : Environment
  /-- Whether a terminal shows the results. -/
  terminal : Bool
  /-- Why results cannot be written, if they cannot. -/
  outputFault : Option Fault
  /-- Whether the error stream takes what is written to it. -/
  errorsAccept : Bool
  /-- The words for draws that need not be repeatable. -/
  words : ChaCha.Generator
  /-- Whether a panic ends the program at once, as in a build that does not unwind its stack. -/
  aborts : Bool := false

/-- The style in which results are told. -/
def Circumstances.style (c : Circumstances) (common : Common) : Style :=
  .choose common c.environment c.terminal

/-- A command that has been carried out. What remains is to tell of it. -/
structure Performance where
  /-- What the error stream was told while the settings were loaded. -/
  warned : String
  /-- What was printed before the work began. -/
  announced : String
  answer : Except Problem Answer
  /-- The events for the journal, in order. -/
  events : List Event
  /-- The journal, if the command came to open one. -/
  journal : Option Journal
  disk : Disk
  errors : ErrorStream

namespace Performance

/-- A command that changes nothing and writes no journal. -/
def plain (answer : Except Problem Answer) (disk : Disk) (errors : ErrorStream) : Performance :=
  ⟨"", "", answer, [], none, disk, errors⟩

end Performance

/-! ## Settings -/

/-- The settings of a replay. -/
def replaySettings (config : Config) (log : Option Path) (database : Option String)
    (dataDir : Option Path) : Config :=
  { config with
    replay := { config.replay with logPath := log.getD config.replay.logPath }
    target := { config.target with
      database := (database.map Text.trimmed).getD config.target.database
      dataDir := dataDir.getD config.target.dataDir } }

/-- The settings of a generation. -/
def generateSettings (config : Config) (output : Option Path) (seed : Option UInt64)
    (min max : Option UInt32) : Config :=
  { config with
    weights := { config.weights with
      outputPath := output.getD config.weights.outputPath
      seed := seed.or config.weights.seed
      minWeight := min.getD config.weights.minWeight
      maxWeight := max.getD config.weights.maxWeight } }

/-- The settings that count: loaded, changed as the command line asks, and usable. -/
def settingsFor (c : Circumstances) (common : Common) (disk : Disk) (change : Config → Config) :
    Except Error Config := do
  let config := change (← Config.load c.environment disk common.config)
  config.validate
  return config

/-- The event that opens a journal, if the settings have a hash. -/
def settingsEvent? (config : Config) : List Event :=
  match config.stableHash with
  | .ok hash => [{ (Event.of .configLoaded .info).withPath config.files.configFile with
      details := some ("config_hash=" ++ hash) }]
  | .error _ => []

/-- The path of a weight table: the one given, or the configured one. -/
def tablePath (c : Circumstances) (common : Common) (disk : Disk) (given : Option Path) :
    Except Error Path :=
  match given with
  | some path => .ok path
  | none => (Config.load c.environment disk common.config).map fun config =>
      config.weights.outputPath

/-! ## Commands -/

/-- Replays the configured log. People are told beforehand; if they cannot be, nothing happens. -/
def performReplay (c : Circumstances) (common : Common) (change : Config → Config) (disk : Disk)
    (errors : ErrorStream) : Performance :=
  match settingsFor c common disk change with
  | .error fault => .plain (.error (.failed fault)) disk errors
  | .ok config =>
    let style := c.style common
    let announces := style.mode = .human && !style.quiet
    match c.outputFault.filter fun _ => announces with
    | some fault => .plain (.error (.unprintable fault)) disk errors
    | none =>
      let log := Journal.opening config.files.eventLog disk errors
      let outcome := Replay.run config log.disk
      { warned := ""
        announced := if announces then announcement config ++ "\n" else ""
        answer := (outcome.result.map (.replayed config.replay.logPath)).mapError .failed
        events := settingsEvent? config ++ outcome.events
        journal := some log.journal
        disk := outcome.state
        errors := log.errors }

/-- Generates the configured table. -/
def performGenerate (c : Circumstances) (common : Common) (change : Config → Config) (disk : Disk)
    (errors : ErrorStream) : Performance :=
  match settingsFor c common disk change with
  | .error fault => .plain (.error (.failed fault)) disk errors
  | .ok config =>
    let log := Journal.opening config.files.eventLog disk errors
    let outcome := Weights.generate config c.words log.disk
    { warned := ""
      announced := ""
      answer := (outcome.result.map .generated).mapError .failed
      events := settingsEvent? config ++ outcome.events
      journal := some log.journal
      disk := outcome.disk
      errors := log.errors }

/-- Finds the heaviest entries of a table. -/
def heaviestOf (c : Circumstances) (common : Common) (disk : Disk) (given : Option Path)
    (top : Nat) : Except Error Answer := do
  let path ← tablePath c common disk given
  let table ← Weights.Table.load disk path
  return .heaviest path table (table.heaviest top)

/-- Draws entries of a table. -/
def drawFrom (c : Circumstances) (common : Common) (disk : Disk) (given : Option Path)
    (count : Nat) (seed : Option UInt64) : Except Error Answer := do
  let path ← tablePath c common disk given
  let table ← Weights.Table.load disk path
  let sampler ← (Weights.Sampler.ofTable table).mapError fun fault => .invalidConfig fault.message
  let words := match seed with
    | some seed => ChaCha.Generator.ofSeed seed
    | none => c.words
  return .drawn path (sampler.drawMany count words).1

/-- Finds the configuration file. -/
def configFileOf (c : Circumstances) (common : Common) (disk : Disk) : Answer :=
  let path := common.config.getD (defaultConfigFile c.environment.home)
  .configFile path (disk.contains path)

/-- Checks the settings. -/
def validateSettings (c : Circumstances) (common : Common) (disk : Disk) : Except Error Answer := do
  let config ← Config.load c.environment disk common.config
  let hash ← config.stableHash
  return .valid config.files.configFile hash

/-- Carries out a command once it has been told that no home directory is known, if that is so. -/
def Invocation.carryOut (i : Invocation) (c : Circumstances) (disk : Disk) : Performance :=
  let errors : ErrorStream := ⟨c.errorsAccept, ""⟩
  let plain (answer : Except Error Answer) : Performance :=
    .plain (answer.mapError .failed) disk errors
  match i.command with
  | .replay log database dataDir =>
    performReplay c i.common (replaySettings · log database dataDir) disk errors
  | .generate output seed min max =>
    performGenerate c i.common (generateSettings · output seed min max) disk errors
  | .showTable path top => plain (heaviestOf c i.common disk path top)
  | .sample path count seed => plain (drawFrom c i.common disk path count seed)
  | .configPath => plain (.ok (configFileOf c i.common disk))
  | .configShow =>
    plain ((Config.load c.environment disk i.common.config).map .settings)
  | .configValidate => plain (validateSettings c i.common disk)
  | .completions shell => plain (.ok (.completions shell))

/-- How often a command asks for the home directory. -/
def Invocation.questions (i : Invocation) (c : Circumstances) (disk : Disk) : Nat :=
  let loading := Config.questions c.environment disk i.common.config
  match i.command with
  | .showTable path _ => if path.isSome then 0 else loading
  | .sample path _ _ => if path.isSome then 0 else loading
  | .configPath => Config.pathQuestions i.common.config
  | .completions _ => 0
  | _ => loading

/-- What the error stream is told before anything else happens. -/
def Invocation.warnings (i : Invocation) (c : Circumstances) (disk : Disk) : String :=
  c.environment.warnings (i.questions c disk)

/-- Whether the error stream takes what it has to be told before anything else happens. -/
def Invocation.warns (i : Invocation) (c : Circumstances) (disk : Disk) : Bool :=
  c.errorsAccept || (i.warnings c disk).isEmpty

/-- Carries out a command. -/
def Invocation.perform (i : Invocation) (c : Circumstances) (disk : Disk) : Performance :=
  if i.warns c disk then { i.carryOut c disk with warned := i.warnings c disk }
  else .plain (.error .unwarned) disk ⟨c.errorsAccept, ""⟩

end SqlReplay.CommandLine
