import SqlReplay.Proofs.Config.Written
import SqlReplay.Proofs.Text.Utf8

/-!
# Settings read back from records

Settings whose paths are texts are written as records of their values, and reading these records
gives the settings again, whatever the defaults are (`ofDocument?_record`).  Only a seed may be
missing from its section, which then is the default one.
-/

namespace SqlReplay

open Storage

theorem Storage.Path.text?_eq_some_iff {p : Path} {s : String} :
    p.text? = some s ↔ p = .ofString s := by
  rw [text?, Utf8.decode?_eq_some_iff]
  constructor
  · intro h
    exact congrArg Path.mk h
  · rintro rfl
    rfl

namespace Config

/-! ## Values -/

theorem natural?_ofNat {limit n : Nat} (h : n ≤ limit) :
    (Document.ofNat n).natural? limit = some n := by
  have hrange : 0 ≤ (n : Int) ∧ (n : Int) ≤ limit := by omega
  rw [Document.ofNat, Document.natural?, if_pos hrange, Int.toNat_natCast]

theorem word32?_ofNat (n : UInt32) : word32? (.ofNat n.toNat) = some n := by
  have hlimit : n.toNat ≤ UInt32.size - 1 := Nat.le_pred_of_lt n.toNat_lt
  rw [word32?, natural?_ofNat hlimit, Option.map_some, UInt32.ofNat_toNat]

theorem word64?_ofNat (n : UInt64) : word64? (.ofNat n.toNat) = some n := by
  have hlimit : n.toNat ≤ UInt64.size - 1 := Nat.le_pred_of_lt n.toNat_lt
  rw [word64?, natural?_ofNat hlimit, Option.map_some, UInt64.ofNat_toNat]

theorem seed?_ofNat (n : UInt64) : seed? (.ofNat n.toNat) = some (some n) := by
  have hnumber : (Document.ofNat n.toNat).isNull = false := rfl
  rw [seed?, hnumber, word64?_ofNat]
  rfl

theorem texts?_map_text (texts : List String) :
    texts? (.list (texts.map Document.text)) = some texts := by
  rw [texts?, Document.list?, Option.bind_some]
  induction texts with
  | nil => rfl
  | cons s texts ih =>
    rw [List.map_cons, List.mapM_cons, ih]
    rfl

/-! ## Sections -/

section Sections

variable (rule : ListRule)

theorem target?_record (base : TargetSettings) (dataDir database : String) (timeout : UInt64) :
    target? rule base (.record [("data_dir", .text dataDir), ("database", .text database),
      ("busy_timeout_ms", .ofNat timeout.toNat)]) =
      some ⟨.ofString dataDir, database, timeout⟩ := by
  simp [target?, isSection, setting, settingNode?, Document.field?, path?, Document.text?,
    word64?_ofNat]

theorem replay?_record (base : ReplaySettings) (logPath opening marker : String) :
    replay? rule base (.record [("log_path", .text logPath), ("block_start", .text opening),
      ("comment_marker", .text marker)]) = some ⟨.ofString logPath, opening, marker⟩ := by
  simp [replay?, isSection, setting, settingNode?, Document.field?, path?, Document.text?]

theorem files?_record (base : FileSettings) (configFile eventLog : String) :
    files? rule base (.record [("config_file", .text configFile), ("event_log", .text eventLog)]) =
      some ⟨.ofString configFile, .ofString eventLog⟩ := by
  simp [files?, isSection, setting, settingNode?, Document.field?, path?, Document.text?]

/-- How a section gives a seed: not at all if it is the default one, else under its name. -/
inductive GivesSeed (default : Option UInt64) : List (String × Document) → Option UInt64 → Prop
  | missing : GivesSeed default [] default
  | named {node : Document} {seed : Option UInt64} (h : seed? node = some seed) :
      GivesSeed default [("seed", node)] seed

theorem weights?_record {base : WeightSettings} {seedFields : List (String × Document)}
    {seed : Option UInt64} (h : GivesSeed base.seed seedFields seed) (outputPath : String)
    (min max : UInt32) (options : List String) :
    weights? rule base (.record ([("output_path", .text outputPath),
      ("min_weight", .ofNat min.toNat), ("max_weight", .ofNat max.toNat)] ++ seedFields
        ++ [("options", .list (options.map Document.text))])) =
      some ⟨.ofString outputPath, min, max, seed, options⟩ := by
  cases h with
  | missing =>
    simp [weights?, isSection, setting, settingNode?, Document.field?, path?, Document.text?,
      word32?_ofNat, texts?_map_text]
  | named hseed =>
    simp [weights?, isSection, setting, settingNode?, Document.field?, path?, Document.text?,
      word32?_ofNat, texts?_map_text, hseed]

theorem ofDocument?_sections {base c : Config} {target replay weights files : Document}
    (htarget : target? rule base.target target = some c.target)
    (hreplay : replay? rule base.replay replay = some c.replay)
    (hweights : weights? rule base.weights weights = some c.weights)
    (hfiles : files? rule base.files files = some c.files) :
    ofDocument? rule base (.record [("target", target), ("replay", replay),
      ("weights", weights), ("paths", files)]) = some c := by
  simp [ofDocument?, isSection, setting, settingNode?, Document.field?, htarget, hreplay, hweights,
    hfiles]

end Sections

/-! ## Settings -/

/-- Texts that spell the paths of settings. -/
structure Spelling (c : Config) where
  dataDir : String
  logPath : String
  outputPath : String
  configFile : String
  eventLog : String
  dataDir_eq : c.target.dataDir = .ofString dataDir
  logPath_eq : c.replay.logPath = .ofString logPath
  outputPath_eq : c.weights.outputPath = .ofString outputPath
  configFile_eq : c.files.configFile = .ofString configFile
  eventLog_eq : c.files.eventLog = .ofString eventLog

variable {c : Config}

theorem nonempty_spelling_iff : Nonempty c.Spelling ↔ ¬ c.HasUnreadablePath := by
  simp only [HasUnreadablePath, List.mem_cons, List.not_mem_nil, or_false, exists_eq_or_imp,
    exists_eq_left, not_or, ← ne_eq, Option.ne_none_iff_exists', Path.text?_eq_some_iff]
  constructor
  · rintro ⟨w⟩
    exact ⟨⟨_, w.dataDir_eq⟩, ⟨_, w.logPath_eq⟩, ⟨_, w.outputPath_eq⟩, ⟨_, w.configFile_eq⟩,
      ⟨_, w.eventLog_eq⟩⟩
  · rintro ⟨⟨_, h₁⟩, ⟨_, h₂⟩, ⟨_, h₃⟩, ⟨_, h₄⟩, ⟨_, h₅⟩⟩
    exact ⟨⟨_, _, _, _, _, h₁, h₂, h₃, h₄, h₅⟩⟩

namespace Spelling

/-- Settings as a record of records, with the seed as `seedFields` give it. -/
def record (w : c.Spelling) (seedFields : List (String × Document)) : Document :=
  .record [
    ("target", .record [
      ("data_dir", .text w.dataDir), ("database", .text c.target.database),
      ("busy_timeout_ms", .ofNat c.target.busyTimeoutMs.toNat)]),
    ("replay", .record [
      ("log_path", .text w.logPath), ("block_start", .text c.replay.opening),
      ("comment_marker", .text c.replay.marker)]),
    ("weights", .record ([
      ("output_path", .text w.outputPath), ("min_weight", .ofNat c.weights.minWeight.toNat),
      ("max_weight", .ofNat c.weights.maxWeight.toNat)] ++ seedFields
        ++ [("options", .list (c.weights.options.map Document.text))])),
    ("paths", .record [("config_file", .text w.configFile), ("event_log", .text w.eventLog)])]

variable (w : c.Spelling)

/-- Settings are read back from their record. -/
theorem ofDocument?_record (rule : ListRule) {base : Config}
    {seedFields : List (String × Document)}
    (hseed : GivesSeed base.weights.seed seedFields c.weights.seed) :
    ofDocument? rule base (w.record seedFields) = some c := by
  have htarget := target?_record rule base.target w.dataDir c.target.database
    c.target.busyTimeoutMs
  have hreplay := replay?_record rule base.replay w.logPath c.replay.opening c.replay.marker
  have hweights := weights?_record rule hseed w.outputPath c.weights.minWeight
    c.weights.maxWeight c.weights.options
  have hfiles := files?_record rule base.files w.configFile w.eventLog
  rw [← w.dataDir_eq] at htarget
  rw [← w.logPath_eq] at hreplay
  rw [← w.outputPath_eq] at hweights
  rw [← w.configFile_eq, ← w.eventLog_eq] at hfiles
  exact ofDocument?_sections rule htarget hreplay hweights hfiles

end Spelling

end Config

end SqlReplay
