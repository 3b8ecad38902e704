import Mathlib.Logic.Function.Iterate
import SqlReplay.Proofs.Config.FileForm
import SqlReplay.Proofs.Config.Overridden

/-!
# Normalising again

Normalising takes all blanks from around names and markers, but only one slash from the end of the
directory of the databases.  How many there are (`spareSlashes`) tells how often it takes until
nothing changes any more (`iterate_normalize_eq_self_iff`), and whether settings that were loaded
are loaded again from a file that spells them out (`normalize_settles`).
-/

namespace SqlReplay.Config

open Storage

/-! ## Slashes at the end of a directory -/

/-- How many slashes stand at the end of a path, apart from one that is its first character. -/
def spareSlashes (p : Path) : Nat := (p.display.toList.tail.reverse.takeWhile (· = '/')).length

section Directory

variable {p : Path} {first : Char} {rest : List Char}

theorem encode_cons_ne_nil (c : Char) (cs : List Char) : Utf8.encode (c :: cs) ≠ [] := by
  simp [Utf8.encode, String.utf8EncodeChar_ne_nil]

theorem display_encode (cs : List Char) :
    (Storage.Path.mk (Utf8.encode cs)).display.toList = cs := by
  rw [← String.toList_ofList (l := cs)]
  exact congrArg String.toList (Utf8.display_ofString (String.ofList cs))

theorem spareSlashes_of_display (h : p.display.toList = first :: (rest ++ ['/'])) :
    spareSlashes p = spareSlashes ⟨Utf8.encode (first :: rest)⟩ + 1 := by
  rw [spareSlashes, spareSlashes, h, display_encode]
  simp

theorem normalDirectory_of_display (h : p.display.toList = first :: (rest ++ ['/'])) :
    normalDirectory p = ⟨Utf8.encode (first :: rest)⟩ := by
  have hlast : (first :: (rest ++ ['/'])).getLast? = some '/' := by
    rw [← List.cons_append, List.getLast?_concat]
  have hinit : (first :: (rest ++ ['/'])).dropLast = first :: rest := by
    rw [← List.cons_append, List.dropLast_concat]
  have hlength : 1 < (Utf8.encode (first :: (rest ++ ['/']))).length := by
    have hfirst := List.length_pos_iff.2 (encode_cons_ne_nil first rest)
    rw [← List.cons_append, Utf8.encode_append, encode_slash, List.length_append,
      List.length_singleton]
    omega
  rw [normalDirectory, h]
  simp [hlast, hinit, hlength]

/-- A path with a slash to spare is shown with it at the end and with more before it. -/
theorem display_of_spareSlashes (h : spareSlashes p ≠ 0) :
    ∃ first rest, p.display.toList = first :: (rest ++ ['/']) := by
  cases hshown : p.display.toList with
  | nil =>
    rw [spareSlashes, hshown] at h
    exact absurd rfl h
  | cons first tail =>
    rw [spareSlashes, hshown, List.tail_cons] at h
    rcases List.eq_nil_or_concat tail with rfl | ⟨rest, last, rfl⟩
    · exact absurd rfl h
    rw [List.concat_eq_append] at h ⊢
    by_cases hlast : last = '/'
    · exact ⟨first, rest, by rw [hlast]⟩
    · rw [List.reverse_concat, List.takeWhile_cons_of_neg (by simpa using hlast)] at h
      exact absurd rfl h

theorem normalDirectory_of_spareSlashes (h : spareSlashes p = 0) : normalDirectory p = p := by
  rw [normalDirectory]
  split
  · next hslash =>
    simp only [Bool.and_eq_true, decide_eq_true_eq] at hslash
    obtain ⟨hlength, hlast⟩ := hslash
    obtain ⟨init, hshown⟩ := List.getLast?_eq_some_iff.1 hlast
    cases init with
    | nil =>
      rw [hshown] at hlength
      exact absurd hlength (by decide)
    | cons first rest =>
      rw [spareSlashes_of_display hshown] at h
      omega
  · rfl

/-- One slash goes. -/
theorem spareSlashes_normalDirectory (p : Path) :
    spareSlashes (normalDirectory p) = spareSlashes p - 1 := by
  by_cases h : spareSlashes p = 0
  · rw [normalDirectory_of_spareSlashes h, h]
  · obtain ⟨first, rest, hshown⟩ := display_of_spareSlashes h
    rw [normalDirectory_of_display hshown, spareSlashes_of_display hshown]
    omega

theorem normalDirectory_eq_self_iff : normalDirectory p = p ↔ spareSlashes p = 0 := by
  refine ⟨fun h => ?_, normalDirectory_of_spareSlashes⟩
  have hslashes := spareSlashes_normalDirectory p
  rw [h] at hslashes
  omega

theorem spareSlashes_iterate (p : Path) (n : Nat) :
    spareSlashes (normalDirectory^[n] p) = spareSlashes p - n := by
  induction n with
  | zero => rfl
  | succ n ih =>
    rw [Function.iterate_succ_apply', spareSlashes_normalDirectory, ih]
    omega

theorem isEmpty_normalDirectory (p : Path) : (normalDirectory p).isEmpty = p.isEmpty := by
  by_cases h : spareSlashes p = 0
  · rw [normalDirectory_of_spareSlashes h]
  · obtain ⟨first, rest, hshown⟩ := display_of_spareSlashes h
    have hempty : (Storage.Path.mk (Utf8.encode (first :: rest))).isEmpty = false :=
      List.isEmpty_eq_false_iff.2 (encode_cons_ne_nil first rest)
    rw [normalDirectory_of_display hshown, hempty]
    cases hbytes : p.bytes with
    | nil =>
      rw [Path.display, hbytes] at hshown
      cases hshown
    | cons _ _ => rw [Path.isEmpty, hbytes, List.isEmpty_cons]

end Directory

/-! ## Settings -/

variable {c : Config}

/-- Settings with another directory for the databases. -/
def withDataDir (c : Config) (p : Path) : Config :=
  { c with target := { c.target with dataDir := p } }

theorem withDataDir_inj {p q : Path} : c.withDataDir p = c.withDataDir q ↔ p = q :=
  ⟨congrArg fun c : Config => c.target.dataDir, congrArg c.withDataDir⟩

theorem withDataDir_eq_self_iff {p : Path} : c.withDataDir p = c ↔ p = c.target.dataDir :=
  withDataDir_inj (c := c) (q := c.target.dataDir)

theorem normalize_withDataDir (c : Config) (p : Path) :
    (c.normalize.withDataDir p).normalize = c.normalize.withDataDir (normalDirectory p) := by
  simp [normalize, withDataDir, Text.trimmed_trimmed]

/-- Once normalised, settings change in the directory of the databases only. -/
theorem iterate_normalize (c : Config) (n : Nat) :
    normalize^[n] c.normalize =
      c.normalize.withDataDir (normalDirectory^[n + 1] c.target.dataDir) := by
  induction n with
  | zero => rfl
  | succ n ih =>
    rw [Function.iterate_succ_apply', ih, normalize_withDataDir,
      ← Function.iterate_succ_apply' normalDirectory]

theorem iterate_normalize_eq_self_iff (c : Config) (n : Nat) :
    normalize^[n + 1] c.normalize = normalize^[n] c.normalize ↔
      spareSlashes c.target.dataDir ≤ n + 1 := by
  rw [iterate_normalize, iterate_normalize, withDataDir_inj, Function.iterate_succ_apply',
    normalDirectory_eq_self_iff, spareSlashes_iterate]
  omega

/-- Normalising a second time is about the directory of the databases only. -/
theorem normalize_normalize (c : Config) :
    c.normalize.normalize = c.normalize.withDataDir (normalDirectory c.normalize.target.dataDir) :=
  normalize_withDataDir c c.normalize.target.dataDir

theorem get_withDataDir {s : Setting} (hs : s ≠ .dataDir) (p : Path) :
    s.get (c.withDataDir p) = s.get c := by
  cases s with
  | dataDir => exact absurd rfl hs
  | _ => rfl

theorem validate_withDataDir {p : Path} (h : p.isEmpty = c.target.dataDir.isEmpty) :
    (c.withDataDir p).validate = c.validate := by
  simp only [validate, range, catalog, withDataDir, h]
  rfl

/-! ## Loading again -/

variable {env env' : Environment} {disk disk' : Disk} {asked asked' : Option Path} {given : Config}

/-- Whether the settings that the configuration file gives are these, one by one. -/
def SpelledOut (c : Config) (env : Environment) (disk : Disk) (asked : Option Path) : Prop :=
  ∃ c', ofFile (.default env.home) disk (usedFile env asked) = .ok c' ∧
    ∀ s : Setting, s.get c' = s.get c

/-- Settings are spelled out by the file that they are written as. -/
theorem spelledOut_of_fileText {text : List Char} (h : c.fileText = .ok text)
    (hread : disk.read (usedFile env asked) = .ok (.plain (Utf8.encode (text ++ ['\n'])))) :
    c.SpelledOut env disk asked := by
  have hwritten : ¬ (c.HasUnreadablePath ∨ c.HasHugeNumber) := by
    rw [← fileText_eq_error_iff, h]
    exact nofun
  rw [not_or] at hwritten
  obtain ⟨text', htext, hfile⟩ := ofFileText_fileText hwritten.1 hwritten.2
  cases h.symm.trans htext
  refine ⟨c, ?_, fun s => rfl⟩
  have hdecode : Utf8.decode (Content.plain (Utf8.encode (text ++ ['\n']))).bytes =
      .ok (text ++ ['\n']) := Utf8.decode_encode _
  simp only [ofFile, hread, hdecode, hfile]

theorem ofSources_of_spelledOut (h : c.SpelledOut env disk asked)
    (hpath : c.files.configFile = usedFile env asked) : ofSources env disk asked = .ok c := by
  obtain ⟨c', hfile, hget⟩ := h
  have hcontains : disk.contains (usedFile env asked) = true := by
    unfold ofFile at hfile
    cases hread : disk.read (usedFile env asked) with
    | error fault =>
      simp only [hread] at hfile
      cases hfile
    | ok content => exact Disk.contains_of_read hread
  have hused : asked.getD (Config.default env.home).files.configFile = usedFile env asked := rfl
  simp only [ofSources, hused, hcontains, if_true, hfile, Except.map, Except.ok.injEq]
  refine ext_settings (fun s => ?_) hpath.symm
  rw [← hget s]
  cases s <;> rfl

/-- Variables that give nothing change nothing. -/
theorem override_eq_self (h : ∀ s : Setting, s.inEnvironment env = none) :
    c.override env = .ok c := by
  have hnone {s : Setting} {name : String} (hname : s.variableName? = some name) :
      env.setting? name = none := by
    have hsilent := h s
    rw [Setting.inEnvironment, hname] at hsilent
    exact Option.map_eq_none_iff.1 hsilent
  simp only [override, Environment.number, Environment.path,
    hnone (s := .dataDir) rfl, hnone (s := .database) rfl, hnone (s := .busyTimeoutMs) rfl,
    hnone (s := .logPath) rfl, hnone (s := .outputPath) rfl, hnone (s := .minWeight) rfl,
    hnone (s := .maxWeight) rfl, hnone (s := .seed) rfl, hnone (s := .eventLog) rfl]
  rfl

/-- Settings that were loaded are normalised once more when they are loaded again. -/
theorem load_of_spelledOut (hload : load env disk asked = .ok c)
    (hsilent : ∀ s : Setting, s.inEnvironment env' = none)
    (hused : usedFile env' asked' = usedFile env asked) (h : c.SpelledOut env' disk' asked') :
    load env' disk' asked' = .ok c.normalize := by
  obtain ⟨base, given, hbase, hgiven, rfl, hvalid⟩ := load_eq_ok hload
  obtain ⟨file, -, -, hpath⟩ := ofSources_eq_ok hbase
  have hpath := (configFile_of_override hgiven).trans (hpath.trans hused.symm)
  have hvalid' : given.normalize.normalize.validate = .ok () := by
    rw [normalize_normalize, validate_withDataDir (isEmpty_normalDirectory _), hvalid]
  rw [load_of_ofSources (ofSources_of_spelledOut h hpath), override_eq_self hsilent]
  simp only [Except.bind, hvalid', Except.map]

/-- Normalised settings stay as they are, apart from the directory of the databases, which takes a
step for each slash that it can spare.  Settings that were loaded are loaded again from a file that
spells them out if they spare no slash any more, and otherwise become what normalising makes of
them. -/
theorem normalize_settles (c : Config) :
    (∀ n, normalize^[n + 1] c.normalize = normalize^[n] c.normalize ↔
      spareSlashes c.target.dataDir ≤ n + 1) ∧
    (∀ s : Setting, s ≠ .dataDir → s.get c.normalize.normalize = s.get c.normalize) ∧
    ∀ env disk asked, load env disk asked = .ok c →
      ∀ env' disk' asked', (∀ s : Setting, s.inEnvironment env' = none) →
        usedFile env' asked' = usedFile env asked → c.SpelledOut env' disk' asked' →
          load env' disk' asked' = .ok c.normalize ∧
            (load env' disk' asked' = .ok c ↔ spareSlashes c.target.dataDir = 0) := by
  refine ⟨iterate_normalize_eq_self_iff c, fun s hs => ?_, ?_⟩
  · rw [normalize_normalize, get_withDataDir hs]
  · intro env disk asked hload env' disk' asked' hsilent hused hspelled
    have hagain := load_of_spelledOut hload hsilent hused hspelled
    obtain ⟨_, given, -, -, rfl, -⟩ := load_eq_ok hload
    refine ⟨hagain, ?_⟩
    rw [hagain, Except.ok.injEq, normalize_normalize, withDataDir_eq_self_iff,
      normalDirectory_eq_self_iff]

/-! ## Settings written and loaded again -/

/-- A disk whose configuration file is the one that settings are written as. -/
def writtenDisk (c : Config) : Disk :=
  Disk.initial.place (.ofString "c.toml") (Utf8.encode (c.fileText.toOption.getD [] ++ ['\n']))

/-- Settings with a directory for the databases. -/
def plainSettings (dir : String) : Config where
  target := ⟨.ofString dir, "database0", 5000⟩
  replay := ⟨.ofString "database0.log", "CREATE TABLE", "--"⟩
  weights := ⟨.ofString "w.txt", 1, 100, some 7, ["a"]⟩
  files := ⟨.ofString "c.toml", .ofString "events.jsonl"⟩

/-- An environment without variables that count. -/
def homeEnvironment : Environment := ⟨[("HOME", Utf8.ofString "/home")]⟩

/-- An environment that gives a directory for the databases. -/
def directoryEnvironment (dir : String) : Environment :=
  ⟨("SRH_TARGET_DATA_DIR", Utf8.ofString dir) :: homeEnvironment.assignments⟩

theorem inEnvironment_homeEnvironment (s : Setting) : s.inEnvironment homeEnvironment = none := by
  cases s <;> rfl

theorem spelledOut_plainSettings (env : Environment) (dir : String) :
    (plainSettings dir).SpelledOut env (writtenDisk (plainSettings dir))
      (some (.ofString "c.toml")) := by
  have hpath : ¬ (plainSettings dir).HasUnreadablePath :=
    nonempty_spelling_iff.1 ⟨⟨dir, _, _, _, _, rfl, rfl, rfl, rfl, rfl⟩⟩
  have hnumber : ¬ (plainSettings dir).HasHugeNumber := by
    simp [HasHugeNumber, plainSettings]
    decide
  obtain ⟨text, htext, -⟩ := ofFileText_fileText hpath hnumber
  refine spelledOut_of_fileText htext ?_
  rw [writtenDisk, htext]
  rfl

/-- What is loaded from the file of `plainSettings`. -/
theorem load_plainSettings (env : Environment) (dir : String) :
    load env (writtenDisk (plainSettings dir)) (some (.ofString "c.toml")) =
      ((plainSettings dir).override env).bind fun given =>
        given.normalize.validate.map fun _ => given.normalize :=
  load_of_ofSources (ofSources_of_spelledOut (spelledOut_plainSettings env dir) rfl)

/-- One slash at the end goes when settings are loaded, and they can be loaded again. -/
theorem normalize_settles_slash :
    load (directoryEnvironment "d/") (writtenDisk (plainSettings "d"))
        (some (.ofString "c.toml")) = .ok (plainSettings "d") ∧
      load homeEnvironment (writtenDisk (plainSettings "d"))
        (some (.ofString "c.toml")) = .ok (plainSettings "d") := by
  have hload : load (directoryEnvironment "d/") (writtenDisk (plainSettings "d"))
      (some (.ofString "c.toml")) = .ok (plainSettings "d") := by
    rw [load_plainSettings]
    decide +kernel
  have hslashes : spareSlashes (plainSettings "d").target.dataDir = 0 := by decide +kernel
  obtain ⟨-, -, hagain⟩ := normalize_settles (plainSettings "d")
  obtain ⟨-, hsame⟩ := hagain _ _ _ hload homeEnvironment _ _ inEnvironment_homeEnvironment rfl
    (spelledOut_plainSettings _ _)
  exact ⟨hload, hsame.2 hslashes⟩

/-- Of two slashes at the end one is left, and settings loaded again are others. -/
theorem double_slash_goes_late :
    (plainSettings "d//").normalize.normalize ≠ (plainSettings "d//").normalize ∧
      load (directoryEnvironment "d//") (writtenDisk (plainSettings "d/"))
        (some (.ofString "c.toml")) = .ok (plainSettings "d/") ∧
      (plainSettings "d/").SpelledOut homeEnvironment (writtenDisk (plainSettings "d/"))
        (some (.ofString "c.toml")) ∧
      load homeEnvironment (writtenDisk (plainSettings "d/")) (some (.ofString "c.toml")) =
        .ok (plainSettings "d") ∧
      (plainSettings "d").stableHash ≠ (plainSettings "d/").stableHash := by
  refine ⟨?_, ?_, spelledOut_plainSettings _ _, ?_, ?_⟩
  · decide +kernel
  · rw [load_plainSettings]
    decide +kernel
  · rw [load_plainSettings]
    decide +kernel
  · decide +kernel

end SqlReplay.Config
