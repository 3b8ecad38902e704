import SqlReplay.Proofs.Config.Loading
import SqlReplay.Proofs.Storage.Rewording

/-!
# Configuration files that differ in one setting

Two configuration files may give the same settings but for one (`DifferIn`).  If both can be loaded,
what is loaded differs in that setting only (`DifferIn.load_eq_ok`).  Whether they can be is the
same for both unless the setting is checked and no variable gives it (`DifferIn.load_of_harmless`).
-/

namespace SqlReplay.Config

open Storage Disk

variable {env : Environment} {asked : Option Path} {s : Setting} {id : Id} {d e : Disk}
  {base base' given given' c c' : Config} {file : Document} {fault : Error}

/-- What the configuration file says, if it can be read. -/
def fileOf? (env : Environment) (disk : Disk) (asked : Option Path) : Option Document :=
  ((disk.read (usedFile env asked)).toOption.bind fun content =>
    (Utf8.decode content.bytes).toOption).bind Toml.parse?

/-- Whether two disks are the same but for the text of the configuration file, from which settings
can be read, and what it says of one setting, of which it says something on both. -/
structure DifferIn (env : Environment) (asked : Option Path) (s : Setting) (id : Id)
    (d e : Disk) : Prop where
  place : ∃ place, d.locate (usedFile env asked) = .ok (.file place id)
  text : ∃ text, e = d.modifyFile id fun f => { f with content := .plain text }
  given : (s.inFile (fileOf? env d asked)).isSome ∧ (s.inFile (fileOf? env e asked)).isSome
  others : ∀ t : Setting, t ≠ s →
    t.inFile (fileOf? env e asked) = t.inFile (fileOf? env d asked)
  read : ∃ base base', ofSources env d asked = .ok base ∧ ofSources env e asked = .ok base'

/-! ## All settings -/

namespace Setting

/-- All settings. -/
def all : List Setting := [dataDir, database, busyTimeoutMs, logPath, opening, marker, outputPath,
  minWeight, maxWeight, seed, options, eventLog]

theorem mem_all (s : Setting) : s ∈ all := by
  cases s <;> decide

instance (s : Setting) : DecidableEq s.Value := match s with
  | dataDir | logPath | outputPath | eventLog => inferInstanceAs (DecidableEq Path)
  | database | opening | marker => inferInstanceAs (DecidableEq String)
  | busyTimeoutMs => inferInstanceAs (DecidableEq UInt64)
  | minWeight | maxWeight => inferInstanceAs (DecidableEq UInt32)
  | seed => inferInstanceAs (DecidableEq (Option UInt64))
  | options => inferInstanceAs (DecidableEq (List String))

end Setting

/-! ## The texts -/

theorem isFile_of_fileOf? (h : fileOf? env d asked = some file) :
    IsFile env d asked (some file) := by
  obtain ⟨text, h, hparse⟩ := Option.bind_eq_some_iff.1 h
  obtain ⟨content, hread, hdecode⟩ := Option.bind_eq_some_iff.1 h
  exact ⟨content, text, toOption_eq_some_iff.1 hread, toOption_eq_some_iff.1 hdecode, hparse⟩

/-- A file that says something of a setting can be read. -/
theorem exists_fileOf? (h : (s.inFile (fileOf? env d asked)).isSome) :
    ∃ file, fileOf? env d asked = some file := by
  cases hfile : fileOf? env d asked with
  | none =>
    rw [hfile] at h
    cases h
  | some file => exact ⟨file, rfl⟩

/-- What is only ever looked at as a database is no text. -/
theorem decode_databaseBytes : (Utf8.decode databaseBytes).toOption = none := by decide +kernel

/-- An empty file gives nothing. -/
theorem inFile_of_empty (h : Toml.parse? [] = some file) (s : Setting) :
    s.inFile (some file) = none := by
  have hempty : Toml.parse? [] = some (.record []) := rfl
  cases hempty.symm.trans h
  rfl

/-- A file that gives a setting holds a text that is not empty. -/
theorem held_of_given {place : Location} (h : (s.inFile (fileOf? env d asked)).isSome)
    (hplace : d.locate (usedFile env asked) = .ok (.file place id)) :
    ∃ f text, d.file? id = some f ∧ text ≠ [] ∧ f.content = .plain text := by
  obtain ⟨file, hfile⟩ := exists_fileOf? h
  obtain ⟨content, cs, hread, hdecode, hparse⟩ := isFile_of_fileOf? hfile
  obtain ⟨-, place', id', f, hplace', hheld, hcontent⟩ := read_eq_ok.1 hread
  rw [hplace] at hplace'
  cases hplace'
  cases content with
  | database db =>
    have hnone := decode_databaseBytes
    rw [show Utf8.decode databaseBytes = .ok cs from hdecode] at hnone
    cases hnone
  | plain text =>
    refine ⟨f, text, hheld, ?_, hcontent⟩
    rintro rfl
    have hcs : cs = [] := (Except.ok.inj hdecode).symm
    rw [hcs] at hparse
    rw [hfile, inFile_of_empty hparse] at h
    cases h

/-- That two files differ in one setting only can be seen setting by setting. -/
theorem differIn_of_all (place : Location) {text : Bytes}
    (he : e = d.modifyFile id fun f => { f with content := .plain text })
    (h : d.locate (usedFile env asked) = .ok (.file place id) ∧
      ((s.inFile (fileOf? env d asked)).isSome ∧ (s.inFile (fileOf? env e asked)).isSome) ∧
      (∀ t ∈ Setting.all, t ≠ s →
        t.inFile (fileOf? env e asked) = t.inFile (fileOf? env d asked)) ∧
      (ofSources env d asked).toOption.isSome ∧ (ofSources env e asked).toOption.isSome) :
    DifferIn env asked s id d e := by
  obtain ⟨hplace, hgiven, hothers, hread, hread'⟩ := h
  obtain ⟨base, hbase⟩ := Option.isSome_iff_exists.1 hread
  obtain ⟨base', hbase'⟩ := Option.isSome_iff_exists.1 hread'
  exact ⟨⟨place, hplace⟩, ⟨text, he⟩, hgiven, fun t => hothers t t.mem_all,
    base, base', toOption_eq_some_iff.1 hbase, toOption_eq_some_iff.1 hbase'⟩

theorem DifferIn.reworded (h : DifferIn env asked s id d e) : Reworded {id} d e := by
  obtain ⟨place, hplace⟩ := h.place
  obtain ⟨text, rfl⟩ := h.text
  obtain ⟨hgiven, hgiven'⟩ := h.given
  obtain ⟨f, held, hf, hheld, hcontent⟩ := held_of_given hgiven hplace
  have hplace' : (d.modifyFile id fun f => { f with content := .plain text }).locate
      (usedFile env asked) = .ok (.file place id) := by
    rw [← hplace]
    exact locate_congr (node?_modifyFile d id _) (home_modifyFile d id _) _
  obtain ⟨g, held', hg, hheld', hcontent'⟩ := held_of_given hgiven' hplace'
  refine ⟨nodes_modifyFile d id _, home_modifyFile d id _, nextId_modifyFile d id _,
    faults_modifyFile d id _, fun other => ?_⟩
  by_cases hother : other = id
  · subst hother
    refine Or.inr ⟨rfl, f, g, hf, hg, ?_⟩
    rw [file?_modifyFile, if_pos rfl, hf, Option.map_some] at hg
    cases hg
    exact ⟨rfl, rfl, rfl, ⟨held, hheld, hcontent⟩, held', hheld', hcontent'⟩
  · exact Or.inl ((file?_modifyFile _ _ _ _).trans (if_neg hother))

/-! ## What is loaded -/

/-- Once variables have been put in place, the settings differ in that one only, and only if its
variable does not give it. -/
theorem DifferIn.get_normalize (h : DifferIn env asked s id d e)
    (hbase : ofSources env d asked = .ok base) (hgiven : base.override env = .ok given)
    (hbase' : ofSources env e asked = .ok base') (hgiven' : base'.override env = .ok given') :
    given'.normalize.files.configFile = given.normalize.files.configFile ∧
      ∀ t : Setting, t ≠ s ∨ (t.inEnvironment env).isSome →
        t.get given'.normalize = t.get given.normalize := by
  obtain ⟨file, hfile⟩ := exists_fileOf? h.given.1
  obtain ⟨file', hfile'⟩ := exists_fileOf? h.given.2
  have hsame := h.others
  rw [hfile, hfile'] at hsame
  obtain ⟨_, hread, hcounts, hpath⟩ := ofSources_eq_ok hbase
  obtain ⟨_, hread', hcounts', hpath'⟩ := ofSources_eq_ok hbase'
  obtain rfl := hread.unique (isFile_of_fileOf? hfile)
  obtain rfl := hread'.unique (isFile_of_fileOf? hfile')
  refine ⟨?_, fun t ht => ?_⟩
  · rw [configFile_of_override hgiven, configFile_of_override hgiven', hpath, hpath']
  · obtain ⟨v, hv, hget⟩ := layers_of_override hcounts hgiven t
    obtain ⟨v', hv', hget'⟩ := layers_of_override hcounts' hgiven' t
    rw [hget, hget', hv.hidden hv' (ht.symm.imp_right fun hother => hsame t hother)]

/-- If both files can be loaded, what is loaded differs in that setting only. -/
theorem DifferIn.load_eq_ok (h : DifferIn env asked s id d e)
    (hd : load env d asked = .ok c) (he : load env e asked = .ok c') :
    c'.files.configFile = c.files.configFile ∧ ∀ t, t ≠ s → t.get c' = t.get c := by
  obtain ⟨base, given, hbase, hgiven, rfl, -⟩ := Config.load_eq_ok hd
  obtain ⟨base', given', hbase', hgiven', rfl, -⟩ := Config.load_eq_ok he
  obtain ⟨hfile, hget⟩ := h.get_normalize hbase hgiven hbase' hgiven'
  exact ⟨hfile, fun t ht => hget t (Or.inl ht)⟩

/-! ## What is refused -/

/-- Whether a setting is looked at to see if settings can be used. -/
def Setting.isChecked : Setting → Bool
  | dataDir | database | opening | marker | minWeight | maxWeight | options => true
  | busyTimeoutMs | logPath | outputPath | seed | eventLog => false

theorem validate_congr (h : ∀ t : Setting, t.isChecked = true → t.get c' = t.get c) :
    c'.validate = c.validate := by
  have hdatabase : c'.target.database = c.target.database := h .database rfl
  have hdataDir : c'.target.dataDir = c.target.dataDir := h .dataDir rfl
  have hopening : c'.replay.opening = c.replay.opening := h .opening rfl
  have hmarker : c'.replay.marker = c.replay.marker := h .marker rfl
  have hmin : c'.weights.minWeight = c.weights.minWeight := h .minWeight rfl
  have hmax : c'.weights.maxWeight = c.weights.maxWeight := h .maxWeight rfl
  have hoptions : c'.weights.options = c.weights.options := h .options rfl
  simp only [validate, range, catalog, hdatabase, hdataDir, hopening, hmarker, hmin, hmax, hoptions]

theorem number_eq_error {α : Type} {name : String} {read : List Char → Except Text.NaturalFault α}
    {current : α} (h : env.number name read current = .error fault) (other : α) :
    env.number name read other = .error fault := by
  unfold Environment.number at h ⊢
  cases htext : env.setting? name with
  | none =>
    rw [htext] at h
    cases h
  | some text =>
    rw [htext] at h
    exact h

/-- Variables that cannot be put in the place of some settings cannot be in that of any. -/
theorem override_eq_error (h : base.override env = .error fault) (other : Config) :
    other.override env = .error fault := by
  simp only [override, bind_eq_error_iff, pure, Except.pure, reduceCtorEq, and_false, exists_false,
    or_false] at h ⊢
  rcases h with h | ⟨_, htimeout, h | ⟨_, hmin, h | ⟨_, hmax, h⟩⟩⟩
  · exact Or.inl (number_eq_error h _)
  all_goals
    obtain ⟨timeout, htimeout⟩ := exists_number_eq_ok htimeout other.target.busyTimeoutMs
    refine Or.inr ⟨timeout, htimeout, ?_⟩
  · exact Or.inl (number_eq_error h _)
  all_goals
    obtain ⟨min, hmin⟩ := exists_number_eq_ok hmin other.weights.minWeight
    refine Or.inr ⟨min, hmin, ?_⟩
  · exact Or.inl (number_eq_error h _)
  · obtain ⟨max, hmax⟩ := exists_number_eq_ok hmax other.weights.maxWeight
    exact Or.inr ⟨max, hmax, number_eq_error h _⟩

/-- What remains of loading once the file has been read. -/
theorem load_of_ofSources (h : ofSources env d asked = .ok base) :
    load env d asked = (base.override env).bind fun given =>
      given.normalize.validate.map fun _ => given.normalize := by
  simp only [load, h, bind, Except.bind, pure, Except.pure, Except.map]

/-- Whether no value that the file may give to a setting keeps the settings from being loaded: the
setting is not checked, or a variable gives it. -/
def Setting.Harmless (s : Setting) (env : Environment) : Prop :=
  s.isChecked = false ∨ (s.inEnvironment env).isSome

/-- Files that differ in a harmless setting are both loaded, or refused for the same reason. -/
theorem DifferIn.load_of_harmless (h : DifferIn env asked s id d e) (hs : s.Harmless env) :
    (load env e asked).map (fun _ => ()) = (load env d asked).map fun _ => () := by
  obtain ⟨base, base', hbase, hbase'⟩ := h.read
  rw [load_of_ofSources hbase, load_of_ofSources hbase']
  cases hgiven : base.override env with
  | error fault =>
    rw [override_eq_error hgiven base']
  | ok given =>
    obtain ⟨given', hgiven'⟩ := exists_override_eq_ok hgiven base'
    have hvalidate : given'.normalize.validate = given.normalize.validate := by
      refine validate_congr fun t ht => (h.get_normalize hbase hgiven hbase' hgiven').2 t ?_
      by_cases heq : t = s
      · subst heq
        exact Or.inr (hs.resolve_left (by rw [ht]; exact nofun))
      · exact Or.inl heq
    rw [hgiven']
    simp only [Except.bind, hvalidate]
    cases given.normalize.validate <;> simp only [Except.map]

/-- Settings that can be read but not loaded are at fault themselves. -/
theorem isInput_of_ofSources (hbase : ofSources env d asked = .ok base)
    (h : load env d asked = .error fault) : fault.IsInput := by
  rw [load_of_ofSources hbase] at h
  rcases bind_eq_error_iff.1 h with h | ⟨given, -, h⟩
  · exact override_isInput h
  · obtain ⟨details, rfl⟩ := validate_eq_error (map_eq_error_iff.1 h)
    exact .invalidConfig details

end SqlReplay.Config
