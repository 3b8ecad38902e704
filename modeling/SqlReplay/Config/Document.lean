import SqlReplay.Config.Basic
import SqlReplay.Document.Json
import SqlReplay.Document.Toml.Printer
import SqlReplay.Hash.Fnv

/-!
# Settings as data trees

Settings are read from a tree and written to one. In reading, what is missing keeps its default and
what is unknown does not matter; a section may also be a list of its values in order. Settings have
a written form only if all paths are texts. The canonical form is compact JSON with the settings in
order, and its hash identifies the settings.
-/

namespace SqlReplay

open Storage

namespace Config

/-! ## Reading -/

/-- How a list in the place of a section is read. -/
inductive ListRule
  /-- Values beyond the last setting are refused. -/
  | exact
  /-- Values beyond the last setting do not matter. -/
  | lenient
deriving DecidableEq

/-- The node of a setting in a section: by name in a record, by place in a list. -/
def settingNode? (d : Document) (place : Nat) (name : String) : Option Document :=
  match d with
  | .list items => items[place]?
  | d => d.field? name

/-- Whether a node can be a section of `size` settings. -/
def isSection (rule : ListRule) (size : Nat) : Document → Bool
  | .record _ => true
  | .list items => rule = .lenient || items.length ≤ size
  | _ => false

/-- The value of a setting: the default if the section does not give it. -/
def setting {α : Type} (d : Document) (place : Nat) (name : String) (read? : Document → Option α)
    (default : α) : Option α :=
  match settingNode? d place name with
  | none => some default
  | some node => read? node

/-- A path given as a text. -/
def path? (d : Document) : Option Path := d.text?.map Path.ofString

/-- A number of 32 bits. -/
def word32? (d : Document) : Option UInt32 := (d.natural? (UInt32.size - 1)).map UInt32.ofNat

/-- A number of 64 bits. -/
def word64? (d : Document) : Option UInt64 := (d.natural? (UInt64.size - 1)).map UInt64.ofNat

/-- A number of 64 bits, or `null` for none. -/
def seed? (d : Document) : Option (Option UInt64) :=
  if d.isNull then some none else (word64? d).map some

/-- A list of texts. -/
def texts? (d : Document) : Option (List String) :=
  d.list?.bind fun items => items.mapM Document.text?

/-- Reads a target section over defaults. -/
def target? (rule : ListRule) (base : TargetSettings) (d : Document) : Option TargetSettings :=
  if !isSection rule 3 d then none
  else do
    let dataDir ← setting d 0 "data_dir" path? base.dataDir
    let database ← setting d 1 "database" Document.text? base.database
    let busyTimeoutMs ← setting d 2 "busy_timeout_ms" word64? base.busyTimeoutMs
    return ⟨dataDir, database, busyTimeoutMs⟩

/-- Reads a replay section over defaults. -/
def replay? (rule : ListRule) (base : ReplaySettings) (d : Document) : Option ReplaySettings :=
  if !isSection rule 3 d then none
  else do
    let logPath ← setting d 0 "log_path" path? base.logPath
    let opening ← setting d 1 "block_start" Document.text? base.opening
    let marker ← setting d 2 "comment_marker" Document.text? base.marker
    return ⟨logPath, opening, marker⟩

/-- Reads a weights section over defaults. -/
def weights? (rule : ListRule) (base : WeightSettings) (d : Document) : Option WeightSettings :=
  if !isSection rule 5 d then none
  else do
    let outputPath ← setting d 0 "output_path" path? base.outputPath
    let minWeight ← setting d 1 "min_weight" word32? base.minWeight
    let maxWeight ← setting d 2 "max_weight" word32? base.maxWeight
    let seed ← setting d 3 "seed" seed? base.seed
    let options ← setting d 4 "options" texts? base.options
    return ⟨outputPath, minWeight, maxWeight, seed, options⟩

/-- Reads a paths section over defaults. -/
def files? (rule : ListRule) (base : FileSettings) (d : Document) : Option FileSettings :=
  if !isSection rule 2 d then none
  else do
    let configFile ← setting d 0 "config_file" path? base.configFile
    let eventLog ← setting d 1 "event_log" path? base.eventLog
    return ⟨configFile, eventLog⟩

/-- Reads settings over defaults. -/
def ofDocument? (rule : ListRule) (base : Config) (d : Document) : Option Config :=
  if !isSection rule 4 d then none
  else do
    let target ← setting d 0 "target" (target? rule base.target) base.target
    let replay ← setting d 1 "replay" (replay? rule base.replay) base.replay
    let weights ← setting d 2 "weights" (weights? rule base.weights) base.weights
    let files ← setting d 3 "paths" (files? rule base.files) base.files
    return ⟨target, replay, weights, files⟩

/-! ## Writing -/

/-- What is said of a path that is no text. -/
def unwritablePath : String := "path contains invalid UTF-8 characters"

/-- The data tree of settings, if all paths are texts. -/
def document? (c : Config) : Option Document := do
  let dataDir ← c.target.dataDir.text?
  let logPath ← c.replay.logPath.text?
  let outputPath ← c.weights.outputPath.text?
  let configFile ← c.files.configFile.text?
  let eventLog ← c.files.eventLog.text?
  return .record [
    ("target", .record [
      ("data_dir", .text dataDir), ("database", .text c.target.database),
      ("busy_timeout_ms", .ofNat c.target.busyTimeoutMs.toNat)]),
    ("replay", .record [
      ("log_path", .text logPath), ("block_start", .text c.replay.opening),
      ("comment_marker", .text c.replay.marker)]),
    ("weights", .record [
      ("output_path", .text outputPath), ("min_weight", .ofNat c.weights.minWeight.toNat),
      ("max_weight", .ofNat c.weights.maxWeight.toNat),
      ("seed", match c.weights.seed with | some seed => .ofNat seed.toNat | none => .null),
      ("options", .list (c.weights.options.map Document.text))]),
    ("paths", .record [("config_file", .text configFile), ("event_log", .text eventLog)])]

/-- The canonical text of settings. -/
def canonical? (c : Config) : Option (List Char) := c.document?.map Document.json

/-- The failure of settings that have no canonical text. -/
def noCanonical : Error := .serialization "serde_json" unwritablePath

/-- The hash of the canonical text. -/
def stableHash (c : Config) : Except Error String :=
  match c.canonical? with
  | some text => .ok (Fnv.hashText (Utf8.encode text))
  | none => .error noCanonical

/-- Why settings cannot be written as a configuration file. -/
inductive FileFault
  | path
  | number
deriving DecidableEq

/-- The fault in words. -/
def FileFault.message : FileFault → String
  | path => unwritablePath
  | number => "out-of-range value for u64 type"

/-- A path as a scalar. -/
def pathScalar (p : Path) : Except FileFault Toml.Scalar :=
  match p.text? with
  | some s => .ok (.text s)
  | none => .error .path

/-- A number as a scalar. A configuration file holds numbers below `2 ^ 63`. -/
def numberScalar (n : UInt64) : Except FileFault Toml.Scalar :=
  if n.toNat < UInt64.size / 2 then .ok (.integer n.toNat) else .error .number

/-- Settings as the sections of a configuration file. -/
def sections (c : Config) : Except FileFault (List Toml.Section) := do
  let dataDir ← pathScalar c.target.dataDir
  let busyTimeoutMs ← numberScalar c.target.busyTimeoutMs
  let logPath ← pathScalar c.replay.logPath
  let outputPath ← pathScalar c.weights.outputPath
  let seed ← match c.weights.seed with
    | some seed => (numberScalar seed).map fun s => [("seed", s)]
    | none => pure []
  let configFile ← pathScalar c.files.configFile
  let eventLog ← pathScalar c.files.eventLog
  return [
    ⟨"target", [("data_dir", dataDir), ("database", .text c.target.database),
      ("busy_timeout_ms", busyTimeoutMs)]⟩,
    ⟨"replay", [("log_path", logPath), ("block_start", .text c.replay.opening),
      ("comment_marker", .text c.replay.marker)]⟩,
    ⟨"weights", [("output_path", outputPath), ("min_weight", .integer c.weights.minWeight.toNat),
      ("max_weight", .integer c.weights.maxWeight.toNat)] ++ seed
        ++ [("options", .texts c.weights.options)]⟩,
    ⟨"paths", [("config_file", configFile), ("event_log", eventLog)]⟩]

/-- Settings as a configuration file. -/
def fileText (c : Config) : Except FileFault (List Char) := c.sections.map Toml.printSections

end Config

end SqlReplay
