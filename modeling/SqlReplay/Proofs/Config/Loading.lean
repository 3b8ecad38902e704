import SqlReplay.Proofs.Config.Layers
import SqlReplay.Proofs.Replay.Failing
import SqlReplay.Proofs.Text.Cuts
import SqlReplay.Proofs.Weights.Failing

/-!
# Loaded settings

Settings that were loaded are, one by one, those of the first source that gives them, and can be
used (`load_layers`).  No variable touches a setting other than its own, and what a file says of a
setting whose variable is set does not matter.
-/

namespace SqlReplay.Config

open Storage

/-! ## Usable settings -/

/-- Whether work with settings never finds fault with them. -/
structure Usable (c : Config) : Prop where
  valid : c.validate = .ok ()
  catalog : ∃ catalog, c.catalog = .ok catalog
  range : ∃ range, c.range = .ok range
  opening : c.logFormat.opening ≠ []
  marker : c.logFormat.marker ≠ []
  replays : ∀ disk details, (Replay.run c disk).result ≠ .error (.invalidConfig details)
  generates : ∀ {σ : Type} [WordSource σ] (source : σ) disk details,
    (Weights.generate c source disk).result ≠ .error (.invalidConfig details)

section Validate

variable {c : Config}

theorem validate_eq_ok (h : c.validate = .ok ()) :
    Replay.checkDatabaseName c.target.database = .ok () ∧ c.target.dataDir.isEmpty = false ∧
      c.replay.opening.isEmpty = false ∧ c.replay.marker.isEmpty = false ∧
      (∃ range, c.range = .ok range) ∧ ∃ catalog, c.catalog = .ok catalog := by
  unfold validate at h
  cases hname : Replay.checkDatabaseName c.target.database with
  | error fault =>
    simp only [hname] at h
    cases h
  | ok _ =>
    simp only [hname] at h
    split_ifs at h with hdir hopening hmarker
    cases hrange : c.range with
    | error fault =>
      simp only [hrange] at h
      cases h
    | ok range =>
      cases hcatalog : c.catalog with
      | error fault =>
        simp only [hrange, hcatalog] at h
        cases h
      | ok catalog =>
        simp only [Bool.not_eq_true] at hdir hopening hmarker
        exact ⟨rfl, hdir, hopening, hmarker, ⟨range, rfl⟩, catalog, rfl⟩

theorem validate_eq_error {fault : Error} (h : c.validate = .error fault) :
    ∃ details, fault = .invalidConfig details := by
  unfold validate at h
  cases hname : Replay.checkDatabaseName c.target.database with
  | error cause =>
    simp only [hname, Except.error.injEq] at h
    subst h
    unfold Replay.checkDatabaseName at hname
    split_ifs at hname <;> exact ⟨_, (Except.error.inj hname).symm⟩
  | ok _ =>
    simp only [hname] at h
    split_ifs at h
    iterate 3 exact ⟨_, (Except.error.inj h).symm⟩
    cases hrange : c.range with
    | error cause =>
      simp only [hrange, Except.error.injEq] at h
      obtain ⟨_, -, rfl⟩ := mapError_eq_error_iff.1 hrange
      exact ⟨_, h.symm⟩
    | ok range =>
      cases hcatalog : c.catalog with
      | error cause =>
        simp only [hrange, hcatalog, Except.error.injEq] at h
        obtain ⟨_, -, rfl⟩ := mapError_eq_error_iff.1 hcatalog
        exact ⟨_, h.symm⟩
      | ok catalog =>
        simp only [hrange, hcatalog] at h
        cases h

/-- Settings that pass the check can be used, once nothing but blanks counts as nothing. -/
theorem usable_of_validate (h : c.validate = .ok ())
    (hopening : Text.trimmed c.replay.opening = c.replay.opening)
    (hmarker : Text.trimmed c.replay.marker = c.replay.marker) : Usable c := by
  obtain ⟨hname, -, hfilled, hfilled', ⟨range, hrange⟩, catalog, hcatalog⟩ := validate_eq_ok h
  have hchars {s : String} (hs : s.isEmpty = false) (htrim : Text.trimmed s = s) :
      Text.trim s.toList ≠ [] := by
    rw [← Text.toList_trimmed, htrim]
    simpa using hs
  exact {
    valid := h
    catalog := ⟨catalog, hcatalog⟩
    range := ⟨range, hrange⟩
    opening := Text.upper_ne_nil (hchars hfilled hopening)
    marker := hchars hfilled' hmarker
    replays := by
      intro disk details hrun
      rcases Replay.run_eq_error hname hrun with ⟨hlog, -⟩ | ⟨_, _, hfault⟩
      · rcases LogFormat.parseFile_eq_error hlog with hfault | ⟨_, _, hfault⟩
        all_goals cases hfault
      · cases hfault
    generates := by
      intro σ _ source disk details hgenerate
      obtain ⟨_, _, hfault⟩ := Weights.generate_isIo hcatalog hrange hgenerate
      cases hfault }

end Validate

/-! ## The file that is used -/

/-- The path of the configuration file: the one asked for, or the usual one. -/
def usedFile (env : Environment) (asked : Option Path) : Path :=
  asked.getD (defaultConfigFile env.home)

/-- Whether a document is what the configuration file says.  There may be no file unless one was
asked for. -/
def IsFile (env : Environment) (disk : Disk) (asked : Option Path) : Option Document → Prop
  | none => disk.contains (usedFile env asked) = false ∧ asked = none
  | some d => ∃ content text, disk.read (usedFile env asked) = .ok content ∧
      Utf8.decode content.bytes = .ok text ∧ Toml.parse? text = some d

section File

variable {env env' : Environment} {disk : Disk} {asked : Option Path} {base c : Config}
  {file file' : Option Document}

theorem IsFile.unique (h : IsFile env disk asked file) (h' : IsFile env disk asked file') :
    file = file' := by
  cases file with
  | none => cases file' with
    | none => rfl
    | some d' =>
      obtain ⟨_, _, hread, -⟩ := h'
      cases h.1.symm.trans (Disk.contains_of_read hread)
  | some d =>
    obtain ⟨_, _, hread, hdecode, hparse⟩ := h
    cases file' with
    | none => cases h'.1.symm.trans (Disk.contains_of_read hread)
    | some d' =>
      obtain ⟨_, _, hread', hdecode', hparse'⟩ := h'
      cases hread.symm.trans hread'
      cases hdecode.symm.trans hdecode'
      exact hparse.symm.trans hparse'

theorem IsFile.congr (h : IsFile env disk asked file)
    (hused : usedFile env' asked = usedFile env asked) : IsFile env' disk asked file := by
  cases file with
  | none => exact ⟨hused ▸ h.1, h.2⟩
  | some d =>
    obtain ⟨content, text, hread, hparse⟩ := h
    exact ⟨content, text, hused ▸ hread, hparse⟩

/-- Settings read from the file are each the one that it gives, or else the default. -/
theorem ofSources_eq_ok (h : ofSources env disk asked = .ok base) :
    ∃ file, IsFile env disk asked file ∧
      (∀ s : Setting, Counts (s.get (Config.default env.home)) [s.inFile file] (s.get base)) ∧
      base.files.configFile = usedFile env asked := by
  have hget (c : Config) (path : Path) (s : Setting) :
      s.get { c with files := { c.files with configFile := path } } = s.get c := by
    cases s <;> rfl
  have hused : asked.getD (Config.default env.home).files.configFile = usedFile env asked := rfl
  simp only [ofSources, map_eq_ok_iff, hused] at h
  obtain ⟨c, hsource, rfl⟩ := h
  simp only [hget]
  split at hsource
  · unfold ofFile at hsource
    cases hread : disk.read (usedFile env asked) with
    | error fault =>
      simp only [hread] at hsource
      cases hsource
    | ok content =>
      cases hdecode : Utf8.decode content.bytes with
      | error fault =>
        simp only [hread, hdecode] at hsource
        cases hsource
      | ok text =>
        simp only [hread, hdecode, ofFileText] at hsource
        cases hparse : (Toml.parse? text).bind (ofDocument? .lenient (Config.default env.home)) with
        | none =>
          simp only [hparse] at hsource
          cases hsource
        | some c' =>
          simp only [hparse] at hsource
          cases hsource
          obtain ⟨d, hd, hc⟩ := Option.bind_eq_some_iff.1 hparse
          exact ⟨some d, ⟨content, text, hread, hdecode, hd⟩, counts_of_ofDocument? hc, trivial⟩
  · next habsent =>
    split at hsource
    · cases hsource
    · next hasked =>
      cases hsource
      rw [Bool.not_eq_true] at habsent
      exact ⟨none, ⟨habsent, by simpa using hasked⟩, fun s => .silent .default, trivial⟩

end File

/-! ## Loading -/

section Load

variable {env : Environment} {disk : Disk} {asked : Option Path} {base given c : Config}
  {file : Option Document}

theorem load_eq_ok (h : load env disk asked = .ok c) :
    ∃ base given, ofSources env disk asked = .ok base ∧ base.override env = .ok given ∧
      given.normalize = c ∧ c.validate = .ok () := by
  simp only [load, bind_eq_ok_iff, pure, Except.pure, Except.ok.injEq] at h
  obtain ⟨base, hbase, given, hgiven, ⟨⟩, hvalid, rfl⟩ := h
  exact ⟨base, given, hbase, hgiven, rfl, hvalid⟩

theorem number_isInput {α : Type} {name : String} {read : List Char → Except Text.NaturalFault α}
    {current : α} {fault : Error} (h : env.number name read current = .error fault) :
    fault.IsInput := by
  unfold Environment.number at h
  split at h
  · cases h
  · split at h
    · cases h
    · cases h
      exact .configParse _ _

theorem ofSources_eq_error {fault : Error} (h : ofSources env disk asked = .error fault) :
    fault.IsInput ∨ fault.IsIo := by
  simp only [ofSources, map_eq_error_iff] at h
  split at h
  · unfold ofFile at h
    split at h
    · cases h
      exact Or.inr ⟨_, _, rfl⟩
    · split at h
      · cases h
        exact Or.inr ⟨_, _, rfl⟩
      · unfold ofFileText at h
        split at h
        · cases h
        · cases h
          exact Or.inl (.configParse _ _)
  · split at h
    · cases h
      exact Or.inl (.missingConfig _)
    · cases h

theorem override_isInput {fault : Error} (h : base.override env = .error fault) :
    fault.IsInput := by
  simp only [override, bind_eq_error_iff] at h
  rcases h with h | ⟨_, -, h | ⟨_, -, h | ⟨_, -, h | ⟨_, -, h⟩⟩⟩⟩
  iterate 4 exact number_isInput h
  cases h

/-- Settings that cannot be loaded are at fault themselves, or the file they are in is. -/
theorem load_eq_error {fault : Error} (h : load env disk asked = .error fault) :
    fault.IsInput ∨ fault.IsIo := by
  simp only [load, bind_eq_error_iff] at h
  rcases h with h | ⟨base, -, h | ⟨given, -, h | ⟨_, -, h⟩⟩⟩
  · exact ofSources_eq_error h
  · exact Or.inl (override_isInput h)
  · obtain ⟨details, rfl⟩ := validate_eq_error h
    exact Or.inl (.invalidConfig details)
  · cases h

/-- The directory of the databases is spelled by a text, unless it is the usual one. -/
theorem dataDir_of_counts {p : Path} (h : Counts (Setting.dataDir.get (Config.default env.home))
      [Setting.dataDir.inEnvironment env, Setting.dataDir.inFile file] p) :
    p = (Config.default env.home).target.dataDir ∨ ∃ text, p = .ofString text := by
  refine h.mem.imp_right fun hmem => ?_
  simp only [List.mem_cons, List.not_mem_nil, or_false] at hmem
  rcases hmem with hmem | hmem
  · obtain ⟨text, -, hread⟩ := Option.map_eq_some_iff.1 hmem.symm
    exact ⟨text, (Option.some.inj hread).symm⟩
  · obtain ⟨node, -, hnode⟩ := Option.bind_eq_some_iff.1 hmem.symm
    obtain ⟨_, -, hread⟩ := Option.map_eq_some_iff.1 hnode
    obtain ⟨text, -, rfl⟩ := Option.map_eq_some_iff.1 hread
    exact ⟨text, rfl⟩

theorem Setting.inEnvironment_congr {env env' : Environment} (s : Setting)
    (h : ∀ name ∈ s.variableName?, env'.setting? name = env.setting? name) :
    s.inEnvironment env' = s.inEnvironment env := by
  unfold inEnvironment
  cases hname : s.variableName? with
  | none => rfl
  | some name => rw [Option.bind_some, Option.bind_some, h name hname]

theorem layers_of_override (hfile : ∀ s : Setting,
      Counts (s.get (Config.default env.home)) [s.inFile file] (s.get base))
    (h : base.override env = .ok given) (s : Setting) :
    ∃ v, Counts (s.get (Config.default env.home)) [s.inEnvironment env, s.inFile file] v ∧
      s.get given.normalize = s.tidy v := by
  have hcounts (s : Setting) := (hfile s).layer (counts_of_override h s)
  refine ⟨s.get given, hcounts s, s.get_normalize given ?_⟩
  rcases dataDir_of_counts (hcounts .dataDir) with hdir | ⟨text, hdir⟩
  · have hdir : given.target.dataDir = (Config.default env.home).target.dataDir := hdir
    rw [hdir, normalDirectory_default]
  · have hdir : given.target.dataDir = .ofString text := hdir
    rw [hdir, normalDirectory_ofString]

theorem configFile_of_override (h : base.override env = .ok given) :
    given.normalize.files.configFile = base.files.configFile := by
  obtain ⟨-, -, -, -, hgiven⟩ := override_eq_ok h
  rw [hgiven]
  rfl

/-- Loaded settings come from their sources one by one and can be used.  With other variables, a
setting changes only if its own variable does; with another file, nothing changes unless it speaks
otherwise of a setting whose variable does not. -/
theorem load_layers (h : load env disk asked = .ok c) :
    ∃ file, IsFile env disk asked file ∧
      (∀ s : Setting, ∃ v,
        Counts (s.get (Config.default env.home)) [s.inEnvironment env, s.inFile file] v ∧
          s.get c = s.tidy v) ∧
      c.files.configFile = usedFile env asked ∧
      Usable c ∧
      (∀ env' c', env'.home = env.home → load env' disk asked = .ok c' →
        c'.files.configFile = c.files.configFile ∧
        ∀ s : Setting, (∀ name ∈ s.variableName?, env'.setting? name = env.setting? name) →
          s.get c' = s.get c) ∧
      ∀ disk' file' base', IsFile env disk' asked file' → ofSources env disk' asked = .ok base' →
        (∀ s : Setting, (s.inEnvironment env).isSome ∨ s.inFile file' = s.inFile file) →
          load env disk' asked = .ok c := by
  obtain ⟨base, given, hbase, hgiven, rfl, hvalid⟩ := load_eq_ok h
  obtain ⟨file, hfile, hcounts, hpath⟩ := ofSources_eq_ok hbase
  have hlayers := layers_of_override hcounts hgiven
  have hused := (configFile_of_override hgiven).trans hpath
  refine ⟨file, hfile, hlayers, hused, usable_of_validate hvalid ?_ ?_, ?_, ?_⟩
  · exact Text.trimmed_trimmed given.replay.opening
  · exact Text.trimmed_trimmed given.replay.marker
  · intro env' c' hhome hload
    obtain ⟨base', given', hbase', hgiven', rfl, -⟩ := load_eq_ok hload
    obtain ⟨file', hfile', hcounts', hpath'⟩ := ofSources_eq_ok hbase'
    have hsame : usedFile env' asked = usedFile env asked := by rw [usedFile, usedFile, hhome]
    obtain rfl := hfile'.unique (hfile.congr hsame)
    refine ⟨(configFile_of_override hgiven').trans (hpath'.trans (hsame.trans hused.symm)), ?_⟩
    intro s hvariable
    obtain ⟨v, hv, hget⟩ := hlayers s
    obtain ⟨v', hv', hget'⟩ := layers_of_override hcounts' hgiven' s
    rw [s.inEnvironment_congr hvariable, hhome] at hv'
    rw [hget', hget, hv'.unique hv]
  · intro disk' file' base' hfile' hbase' hsame
    obtain ⟨file'', hfile'', hcounts', hpath'⟩ := ofSources_eq_ok hbase'
    obtain rfl := hfile'.unique hfile''
    obtain ⟨given', hgiven'⟩ := exists_override_eq_ok hgiven base'
    have hresult : given'.normalize = given.normalize := by
      refine ext_settings (fun s => ?_) ?_
      · obtain ⟨v, hv, hget⟩ := hlayers s
        obtain ⟨v', hv', hget'⟩ := layers_of_override hcounts' hgiven' s
        rw [hget', hget, hv.hidden hv' (hsame s)]
      · rw [configFile_of_override hgiven', hpath', hused]
    simp only [load, bind_eq_ok_iff, pure, Except.pure, Except.ok.injEq]
    exact ⟨base', hbase', given', hgiven', (), by rw [hresult, hvalid], hresult⟩

/-- An environment with one variable that is blank and one that is a number among blanks. -/
def mixedEnvironment : Environment := ⟨[("HOME", Utf8.ofString "/home"),
  ("SRH_TARGET_DATABASE", Utf8.ofString "  "), ("SRH_WEIGHTS_MIN_WEIGHT", Utf8.ofString " 3 ")]⟩

/-- A disk with a configuration file whose bounds are no range by themselves. -/
def mixedDisk : Disk := Disk.initial.place (.ofString "c.toml") (Utf8.ofString
  ("[target]\ndata_dir = \"d/\"\ndatabase = \" db7 \"\n"
    ++ "[weights]\nmin_weight = 9\nmax_weight = 5\noptions = [\"a\"]\n"))

theorem load_layers_mixed :
    ∃ c, load mixedEnvironment mixedDisk (some (.ofString "c.toml")) = .ok c ∧
      c.target.dataDir = .ofString "d" ∧ c.target.database = "db7" ∧
      c.weights.minWeight = 3 ∧ c.weights.maxWeight = 5 ∧ Usable c := by
  have hvalues : ((load mixedEnvironment mixedDisk (some (.ofString "c.toml"))).map fun c =>
      (c.target.dataDir, c.target.database, c.weights.minWeight, c.weights.maxWeight)) =
      .ok (.ofString "d", "db7", 3, 5) := by decide +kernel
  obtain ⟨c, hload, hc⟩ := map_eq_ok_iff.1 hvalues
  simp only [Prod.mk.injEq] at hc
  obtain ⟨-, -, -, -, husable, -⟩ := load_layers hload
  exact ⟨c, hload, hc.1, hc.2.1, hc.2.2.1, hc.2.2.2, husable⟩

end Load

end SqlReplay.Config
