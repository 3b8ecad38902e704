import SqlReplay.Config.Load
import SqlReplay.Proofs.Config.Normal
import SqlReplay.Proofs.Except

/-!
# Settings and their sources

A setting can be given by a variable and by the configuration file.  Each source says something of
it or nothing, and the first that says something counts (`Counts`).  Reading the file, putting
variables in place and normalising are described setting by setting
(`counts_of_ofDocument?`, `counts_of_override`, `Setting.get_normalize`).
-/

namespace SqlReplay.Config

open Storage

/-- A setting that sources can give. -/
inductive Setting
  | dataDir
  | database
  | busyTimeoutMs
  | logPath
  | opening
  | marker
  | outputPath
  | minWeight
  | maxWeight
  | seed
  | options
  | eventLog
deriving DecidableEq

namespace Setting

/-- What a setting can be set to. -/
abbrev Value : Setting → Type
  | dataDir | logPath | outputPath | eventLog => Path
  | database | opening | marker => String
  | busyTimeoutMs => UInt64
  | minWeight | maxWeight => UInt32
  | seed => Option UInt64
  | options => List String

/-- What a setting is set to. -/
def get (c : Config) : (s : Setting) → s.Value
  | dataDir => c.target.dataDir
  | database => c.target.database
  | busyTimeoutMs => c.target.busyTimeoutMs
  | logPath => c.replay.logPath
  | opening => c.replay.opening
  | marker => c.replay.marker
  | outputPath => c.weights.outputPath
  | minWeight => c.weights.minWeight
  | maxWeight => c.weights.maxWeight
  | seed => c.weights.seed
  | options => c.weights.options
  | eventLog => c.files.eventLog

/-- What is set in the end, where a source gives a value: names and markers lose the blanks around
them, and the directory of the databases the slash at its end. -/
def tidy : (s : Setting) → s.Value → s.Value
  | dataDir, p => withoutSlash p
  | database, name => Text.trimmed name
  | opening, phrase => Text.trimmed phrase
  | marker, phrase => Text.trimmed phrase
  | options, names => names.map Text.trimmed
  | busyTimeoutMs, n => n
  | logPath, p => p
  | outputPath, p => p
  | minWeight, n => n
  | maxWeight, n => n
  | seed, n => n
  | eventLog, p => p

/-! ## Sources -/

/-- The variable that gives the setting, if there is one. -/
def variableName? : Setting → Option String
  | dataDir => some "SRH_TARGET_DATA_DIR"
  | database => some "SRH_TARGET_DATABASE"
  | busyTimeoutMs => some "SRH_TARGET_BUSY_TIMEOUT_MS"
  | logPath => some "SRH_REPLAY_LOG_PATH"
  | outputPath => some "SRH_WEIGHTS_OUTPUT_PATH"
  | minWeight => some "SRH_WEIGHTS_MIN_WEIGHT"
  | maxWeight => some "SRH_WEIGHTS_MAX_WEIGHT"
  | seed => some "SRH_WEIGHTS_SEED"
  | eventLog => some "SRH_EVENT_LOG"
  | opening | marker | options => none

/-- Reads the text of a variable; blanks around a number do not matter. -/
def ofText? : (s : Setting) → String → Option s.Value
  | dataDir, text => some (.ofString text)
  | database, text => some text
  | busyTimeoutMs, text => (Text.readUInt64 (Text.trim text.toList)).toOption
  | logPath, text => some (.ofString text)
  | outputPath, text => some (.ofString text)
  | minWeight, text => (Text.readUInt32 (Text.trim text.toList)).toOption
  | maxWeight, text => (Text.readUInt32 (Text.trim text.toList)).toOption
  | seed, text => (Text.readUInt64 (Text.trim text.toList)).toOption.map some
  | eventLog, text => some (.ofString text)
  | opening, _ => none
  | marker, _ => none
  | options, _ => none

/-- What the environment says of a setting: something if its variable is a text that is not
blank. -/
def inEnvironment (s : Setting) (env : Environment) : Option (Option s.Value) :=
  (s.variableName?.bind env.setting?).map s.ofText?

/-- The section of a configuration file that has the setting, by place and by name. -/
def sectionKey : Setting → Nat × String
  | dataDir | database | busyTimeoutMs => (0, "target")
  | logPath | opening | marker => (1, "replay")
  | outputPath | minWeight | maxWeight | seed | options => (2, "weights")
  | eventLog => (3, "paths")

/-- Where in its section the setting is, by place and by name. -/
def key : Setting → Nat × String
  | dataDir => (0, "data_dir")
  | database => (1, "database")
  | busyTimeoutMs => (2, "busy_timeout_ms")
  | logPath => (0, "log_path")
  | opening => (1, "block_start")
  | marker => (2, "comment_marker")
  | outputPath => (0, "output_path")
  | minWeight => (1, "min_weight")
  | maxWeight => (2, "max_weight")
  | seed => (3, "seed")
  | options => (4, "options")
  | eventLog => (1, "event_log")

/-- Reads the node that a configuration file has for the setting. -/
def ofNode? : (s : Setting) → Document → Option s.Value
  | dataDir => path?
  | database => Document.text?
  | busyTimeoutMs => word64?
  | logPath => path?
  | opening => Document.text?
  | marker => Document.text?
  | outputPath => path?
  | minWeight => word32?
  | maxWeight => word32?
  | seed => seed?
  | options => texts?
  | eventLog => path?

/-- What a section says of a setting. -/
def inSection (s : Setting) (node : Document) : Option (Option s.Value) :=
  (settingNode? node s.key.1 s.key.2).map s.ofNode?

/-- What the configuration file says of a setting: nothing if there is no file. -/
def inFile (s : Setting) (file : Option Document) : Option (Option s.Value) :=
  (file.bind (settingNode? · s.sectionKey.1 s.sectionKey.2)).bind s.inSection

end Setting

/-! ## Which source counts -/

/-- Whether a value counts under sources, the strongest first: it is that of the first source that
says anything, and the default if none does. A source that says something but gives no value lets
nothing count. -/
inductive Counts {α : Type} (default : α) : List (Option (Option α)) → α → Prop
  | default : Counts default [] default
  | said (value : α) (weaker : List (Option (Option α))) :
      Counts default (some (some value) :: weaker) value
  | silent {value : α} {weaker : List (Option (Option α))} (h : Counts default weaker value) :
      Counts default (none :: weaker) value

namespace Counts

variable {α : Type} {default value value' : α} {source : Option (Option α)}
  {sources : List (Option (Option α))}

/-- At most one value counts. -/
theorem unique (h : Counts default sources value) (h' : Counts default sources value') :
    value = value' := by
  induction h with
  | default => cases h' with
    | default => rfl
  | said => cases h' with
    | said => rfl
  | silent _ ih => cases h' with
    | silent h' => exact ih h'

/-- A source counts over what counts without it. -/
theorem layer (h : Counts default sources value) (h' : Counts value [source] value') :
    Counts default (source :: sources) value' := by
  cases h' with
  | said => exact .said value' sources
  | silent h' => cases h' with
    | default => exact .silent h

/-- What a source says does not matter where a stronger one says something. -/
theorem hidden {weaker weaker' : Option (Option α)} (h : Counts default [source, weaker] value)
    (h' : Counts default [source, weaker'] value') (hsame : source.isSome ∨ weaker' = weaker) :
    value' = value := by
  rcases hsame with hsome | rfl
  · cases h with
    | said => cases h' with
      | said => rfl
    | silent => cases hsome
  · exact h'.unique h

/-- A value that counts is the default or what some source says. -/
theorem mem (h : Counts default sources value) :
    value = default ∨ some (some value) ∈ sources := by
  induction h with
  | default => exact Or.inl rfl
  | said => exact Or.inr List.mem_cons_self
  | silent _ ih => exact ih.imp_right (List.mem_cons_of_mem _)

end Counts

/-! ## The configuration file -/

section File

variable {rule : ListRule} {d : Document}

theorem counts_of_setting {α : Type} {place : Nat} {name : String} {read? : Document → Option α}
    {default value : α} (h : setting d place name read? default = some value) :
    Counts default [(settingNode? d place name).map read?] value := by
  unfold setting at h
  cases hnode : settingNode? d place name with
  | none =>
    rw [hnode] at h
    cases h
    exact .silent .default
  | some node =>
    rw [hnode] at h
    have hread : read? node = some value := h
    rw [Option.map_some, hread]
    exact .said value []

theorem target?_eq_some {base t : TargetSettings} (h : target? rule base d = some t) :
    setting d 0 "data_dir" path? base.dataDir = some t.dataDir ∧
      setting d 1 "database" Document.text? base.database = some t.database ∧
      setting d 2 "busy_timeout_ms" word64? base.busyTimeoutMs = some t.busyTimeoutMs := by
  unfold target? at h
  split at h
  · cases h
  · simp only [Option.bind_eq_bind, Option.bind_eq_some_iff, pure, Option.some.injEq] at h
    obtain ⟨_, hdir, _, hname, _, htimeout, rfl⟩ := h
    exact ⟨hdir, hname, htimeout⟩

theorem replay?_eq_some {base r : ReplaySettings} (h : replay? rule base d = some r) :
    setting d 0 "log_path" path? base.logPath = some r.logPath ∧
      setting d 1 "block_start" Document.text? base.opening = some r.opening ∧
      setting d 2 "comment_marker" Document.text? base.marker = some r.marker := by
  unfold replay? at h
  split at h
  · cases h
  · simp only [Option.bind_eq_bind, Option.bind_eq_some_iff, pure, Option.some.injEq] at h
    obtain ⟨_, hlog, _, hopening, _, hmarker, rfl⟩ := h
    exact ⟨hlog, hopening, hmarker⟩

theorem weights?_eq_some {base w : WeightSettings} (h : weights? rule base d = some w) :
    setting d 0 "output_path" path? base.outputPath = some w.outputPath ∧
      setting d 1 "min_weight" word32? base.minWeight = some w.minWeight ∧
      setting d 2 "max_weight" word32? base.maxWeight = some w.maxWeight ∧
      setting d 3 "seed" seed? base.seed = some w.seed ∧
      setting d 4 "options" texts? base.options = some w.options := by
  unfold weights? at h
  split at h
  · cases h
  · simp only [Option.bind_eq_bind, Option.bind_eq_some_iff, pure, Option.some.injEq] at h
    obtain ⟨_, houtput, _, hmin, _, hmax, _, hseed, _, hoptions, rfl⟩ := h
    exact ⟨houtput, hmin, hmax, hseed, hoptions⟩

theorem files?_eq_some {base f : FileSettings} (h : files? rule base d = some f) :
    setting d 1 "event_log" path? base.eventLog = some f.eventLog := by
  unfold files? at h
  split at h
  · cases h
  · simp only [Option.bind_eq_bind, Option.bind_eq_some_iff, pure, Option.some.injEq] at h
    obtain ⟨_, -, _, hlog, rfl⟩ := h
    exact hlog

/-- What counts for a setting under its section counts under the file. -/
theorem counts_of_section {σ : Type} {read? : Document → Option σ} {base t : σ} (s : Setting)
    (field : σ → s.Value)
    (hfield : ∀ node t, read? node = some t →
      Counts (field base) [s.inSection node] (field t))
    (h : setting d s.sectionKey.1 s.sectionKey.2 read? base = some t) :
    Counts (field base) [s.inFile (some d)] (field t) := by
  unfold Setting.inFile
  rw [Option.bind_some]
  unfold setting at h
  cases hnode : settingNode? d s.sectionKey.1 s.sectionKey.2 with
  | none =>
    rw [hnode] at h
    cases h
    exact .silent .default
  | some node =>
    rw [hnode] at h
    exact hfield node t h

/-- Of the settings read from a file each is the one that the file gives, or else the default. -/
theorem counts_of_ofDocument? {base c : Config} (h : ofDocument? rule base d = some c)
    (s : Setting) : Counts (s.get base) [s.inFile (some d)] (s.get c) := by
  unfold ofDocument? at h
  split at h
  · cases h
  simp only [Option.bind_eq_bind, Option.bind_eq_some_iff, pure, Option.some.injEq] at h
  obtain ⟨target, htarget, replay, hreplay, weights, hweights, files, hfiles, rfl⟩ := h
  cases s with
  | dataDir =>
    exact counts_of_section .dataDir TargetSettings.dataDir
      (fun _ _ h => counts_of_setting (target?_eq_some h).1) htarget
  | database =>
    exact counts_of_section .database TargetSettings.database
      (fun _ _ h => counts_of_setting (target?_eq_some h).2.1) htarget
  | busyTimeoutMs =>
    exact counts_of_section .busyTimeoutMs TargetSettings.busyTimeoutMs
      (fun _ _ h => counts_of_setting (target?_eq_some h).2.2) htarget
  | logPath =>
    exact counts_of_section .logPath ReplaySettings.logPath
      (fun _ _ h => counts_of_setting (replay?_eq_some h).1) hreplay
  | opening =>
    exact counts_of_section .opening ReplaySettings.opening
      (fun _ _ h => counts_of_setting (replay?_eq_some h).2.1) hreplay
  | marker =>
    exact counts_of_section .marker ReplaySettings.marker
      (fun _ _ h => counts_of_setting (replay?_eq_some h).2.2) hreplay
  | outputPath =>
    exact counts_of_section .outputPath WeightSettings.outputPath
      (fun _ _ h => counts_of_setting (weights?_eq_some h).1) hweights
  | minWeight =>
    exact counts_of_section .minWeight WeightSettings.minWeight
      (fun _ _ h => counts_of_setting (weights?_eq_some h).2.1) hweights
  | maxWeight =>
    exact counts_of_section .maxWeight WeightSettings.maxWeight
      (fun _ _ h => counts_of_setting (weights?_eq_some h).2.2.1) hweights
  | seed =>
    exact counts_of_section .seed WeightSettings.seed
      (fun _ _ h => counts_of_setting (weights?_eq_some h).2.2.2.1) hweights
  | options =>
    exact counts_of_section .options WeightSettings.options
      (fun _ _ h => counts_of_setting (weights?_eq_some h).2.2.2.2) hweights
  | eventLog =>
    exact counts_of_section .eventLog FileSettings.eventLog
      (fun _ _ h => counts_of_setting (files?_eq_some h)) hfiles

end File

/-! ## Variables -/

section Variables

variable {env : Environment} {name : String} {c c' : Config}

theorem counts_path (current : Path) :
    Counts current [(env.setting? name).map fun text => some (.ofString text)]
      (env.path name current) := by
  unfold Environment.path
  cases env.setting? name with
  | none => exact .silent .default
  | some text => exact .said _ []

theorem counts_number {α : Type} {read : List Char → Except Text.NaturalFault α} {current n : α}
    (h : env.number name read current = .ok n) :
    Counts current [(env.setting? name).map fun text => (read (Text.trim text.toList)).toOption]
      n := by
  unfold Environment.number at h
  cases htext : env.setting? name with
  | none =>
    rw [htext] at h
    cases h
    exact .silent .default
  | some text =>
    rw [htext] at h
    rw [Option.map_some]
    cases hread : read (Text.trim text.toList) with
    | error fault =>
      simp only [hread] at h
      cases h
    | ok value =>
      simp only [hread] at h
      cases h
      exact .said n []

/-- Whether a variable gives a number has nothing to do with the number there is. -/
theorem exists_number_eq_ok {α : Type} {read : List Char → Except Text.NaturalFault α}
    {current n : α} (h : env.number name read current = .ok n) (other : α) :
    ∃ m, env.number name read other = .ok m := by
  unfold Environment.number at h ⊢
  cases htext : env.setting? name with
  | none => exact ⟨other, rfl⟩
  | some text =>
    rw [htext] at h
    exact ⟨n, h⟩

theorem override_eq_ok (h : c.override env = .ok c') :
    env.number "SRH_TARGET_BUSY_TIMEOUT_MS" Text.readUInt64 c.target.busyTimeoutMs =
        .ok c'.target.busyTimeoutMs ∧
      env.number "SRH_WEIGHTS_MIN_WEIGHT" Text.readUInt32 c.weights.minWeight =
        .ok c'.weights.minWeight ∧
      env.number "SRH_WEIGHTS_MAX_WEIGHT" Text.readUInt32 c.weights.maxWeight =
        .ok c'.weights.maxWeight ∧
      env.number "SRH_WEIGHTS_SEED" (fun cs => (Text.readUInt64 cs).map some) c.weights.seed =
        .ok c'.weights.seed ∧
      c' = {
        target := ⟨env.path "SRH_TARGET_DATA_DIR" c.target.dataDir,
          (env.setting? "SRH_TARGET_DATABASE").getD c.target.database, c'.target.busyTimeoutMs⟩
        replay := { c.replay with logPath := env.path "SRH_REPLAY_LOG_PATH" c.replay.logPath }
        weights := ⟨env.path "SRH_WEIGHTS_OUTPUT_PATH" c.weights.outputPath, c'.weights.minWeight,
          c'.weights.maxWeight, c'.weights.seed, c.weights.options⟩
        files := { c.files with eventLog := env.path "SRH_EVENT_LOG" c.files.eventLog } } := by
  unfold override at h
  simp only [bind_eq_ok_iff, pure, Except.pure, Except.ok.injEq] at h
  obtain ⟨_, htimeout, _, hmin, _, hmax, _, hseed, rfl⟩ := h
  exact ⟨htimeout, hmin, hmax, hseed, rfl⟩

/-- Variables can be put in the place of any settings if in that of some. -/
theorem exists_override_eq_ok (h : c.override env = .ok c') (base : Config) :
    ∃ result, base.override env = .ok result := by
  obtain ⟨htimeout, hmin, hmax, hseed, -⟩ := override_eq_ok h
  obtain ⟨_, htimeout⟩ := exists_number_eq_ok htimeout base.target.busyTimeoutMs
  obtain ⟨_, hmin⟩ := exists_number_eq_ok hmin base.weights.minWeight
  obtain ⟨_, hmax⟩ := exists_number_eq_ok hmax base.weights.maxWeight
  obtain ⟨_, hseed⟩ := exists_number_eq_ok hseed base.weights.seed
  unfold override
  simp only [bind_eq_ok_iff]
  exact ⟨_, _, htimeout, _, hmin, _, hmax, _, hseed, rfl⟩

/-- Each setting is the one that its variable gives, or else as before. -/
theorem counts_of_override (h : c.override env = .ok c') (s : Setting) :
    Counts (s.get c) [s.inEnvironment env] (s.get c') := by
  obtain ⟨htimeout, hmin, hmax, hseed, hc'⟩ := override_eq_ok h
  cases s with
  | dataDir =>
    rw [hc']
    exact counts_path _
  | database =>
    rw [hc']
    simp only [Setting.inEnvironment, Setting.get, Setting.variableName?, Option.bind_some]
    cases env.setting? "SRH_TARGET_DATABASE" with
    | none => exact .silent .default
    | some text => exact .said text []
  | busyTimeoutMs => exact counts_number htimeout
  | logPath =>
    rw [hc']
    exact counts_path _
  | outputPath =>
    rw [hc']
    exact counts_path _
  | minWeight => exact counts_number hmin
  | maxWeight => exact counts_number hmax
  | seed =>
    have hread (cs : List Char) : ((Text.readUInt64 cs).map some).toOption =
        (Text.readUInt64 cs).toOption.map some := by
      cases Text.readUInt64 cs <;> rfl
    have hcounts := counts_number hseed
    simp only [hread] at hcounts
    exact hcounts
  | eventLog =>
    rw [hc']
    exact counts_path _
  | opening =>
    rw [hc']
    exact .silent .default
  | marker =>
    rw [hc']
    exact .silent .default
  | options =>
    rw [hc']
    exact .silent .default

end Variables

/-! ## Normalising -/

/-- Normalising is done setting by setting. -/
theorem Setting.get_normalize (c : Config) (s : Setting)
    (hdir : normalDirectory c.target.dataDir = withoutSlash c.target.dataDir) :
    s.get c.normalize = s.tidy (s.get c) := by
  cases s with
  | dataDir => simp only [get, tidy, normalize, hdir]
  | _ => simp only [get, tidy, normalize]

/-- Settings are determined by what they are one by one. -/
theorem ext_settings {c c' : Config} (h : ∀ s : Setting, s.get c = s.get c')
    (hfile : c.files.configFile = c'.files.configFile) : c = c' := by
  obtain ⟨⟨_, _, _⟩, ⟨_, _, _⟩, ⟨_, _, _, _, _⟩, ⟨_, _⟩⟩ := c
  obtain ⟨⟨_, _, _⟩, ⟨_, _, _⟩, ⟨_, _, _, _, _⟩, ⟨_, _⟩⟩ := c'
  obtain rfl := h .dataDir
  obtain rfl := h .database
  obtain rfl := h .busyTimeoutMs
  obtain rfl := h .logPath
  obtain rfl := h .opening
  obtain rfl := h .marker
  obtain rfl := h .outputPath
  obtain rfl := h .minWeight
  obtain rfl := h .maxWeight
  obtain rfl := h .seed
  obtain rfl := h .options
  obtain rfl := h .eventLog
  obtain rfl := hfile
  rfl

end SqlReplay.Config
