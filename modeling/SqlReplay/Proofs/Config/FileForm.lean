import SqlReplay.Config.Load
import SqlReplay.Proofs.Config.Records
import SqlReplay.Proofs.Document.TomlRoundTrip

/-!
# Settings read back from a configuration file

Settings whose paths are texts and whose numbers are not too large are written as a configuration
file, and reading the file gives the settings again (`ofFileText_fileText`).  A seed that is none is
not written; it is the default that stands for it.
-/

namespace SqlReplay.Config

open Storage

theorem pathScalar_ofString {p : Path} {s : String} (h : p = .ofString s) :
    pathScalar p = .ok (.text s) := by
  rw [pathScalar, Path.text?_eq_some_iff.2 h]

theorem numberScalar_eq_ok {n : UInt64} (h : n.toNat < UInt64.size / 2) :
    numberScalar n = .ok (.integer n.toNat) := if_pos h

theorem numberScalar_eq_error {n : UInt64} (h : UInt64.size / 2 ≤ n.toNat) :
    numberScalar n = .error .number := if_neg (by omega)

theorem lt_of_not_hasHugeNumber {c : Config} (h : ¬ c.HasHugeNumber) {n : UInt64}
    (hn : n ∈ c.target.busyTimeoutMs :: c.weights.seed.toList) : n.toNat < UInt64.size / 2 := by
  by_contra hlarge
  exact h ⟨n, hn, Nat.le_of_not_lt hlarge⟩

namespace Spelling

variable {c : Config} (w : c.Spelling)

/-- The field of a seed, if there is one. -/
def seedScalars : Option UInt64 → List (String × Toml.Scalar)
  | none => []
  | some seed => [("seed", .integer seed.toNat)]

/-- Settings as tables. -/
def sections : List Toml.Section := [
  ⟨"target", [("data_dir", .text w.dataDir), ("database", .text c.target.database),
    ("busy_timeout_ms", .integer c.target.busyTimeoutMs.toNat)]⟩,
  ⟨"replay", [("log_path", .text w.logPath), ("block_start", .text c.replay.opening),
    ("comment_marker", .text c.replay.marker)]⟩,
  ⟨"weights", [("output_path", .text w.outputPath),
    ("min_weight", .integer c.weights.minWeight.toNat),
    ("max_weight", .integer c.weights.maxWeight.toNat)] ++ seedScalars c.weights.seed
      ++ [("options", .texts c.weights.options)]⟩,
  ⟨"paths", [("config_file", .text w.configFile), ("event_log", .text w.eventLog)]⟩]

theorem sections_eq (h : ¬ c.HasHugeNumber) : c.sections = .ok w.sections := by
  have htimeout := numberScalar_eq_ok (lt_of_not_hasHugeNumber h List.mem_cons_self)
  unfold Config.sections sections
  rw [pathScalar_ofString w.dataDir_eq, htimeout, pathScalar_ofString w.logPath_eq,
    pathScalar_ofString w.outputPath_eq, pathScalar_ofString w.configFile_eq,
    pathScalar_ofString w.eventLog_eq]
  cases hseed : c.weights.seed with
  | none => rfl
  | some seed =>
    have hnumber : numberScalar seed = .ok (.integer seed.toNat) := by
      apply numberScalar_eq_ok
      apply lt_of_not_hasHugeNumber h
      rw [hseed]
      exact List.mem_cons_of_mem _ List.mem_cons_self
    simp only [hnumber]
    rfl

/-- A number that is too large is all that can be wrong with settings whose paths are texts. -/
theorem sections_eq_error {c : Config} (w : c.Spelling) (h : c.HasHugeNumber) :
    c.sections = .error .number := by
  unfold Config.sections
  rw [pathScalar_ofString w.dataDir_eq, pathScalar_ofString w.logPath_eq,
    pathScalar_ofString w.outputPath_eq]
  by_cases htimeout : c.target.busyTimeoutMs.toNat < UInt64.size / 2
  · obtain ⟨n, hn, hlarge⟩ := h
    rcases List.mem_cons.1 hn with rfl | hseed
    · omega
    · rw [numberScalar_eq_ok htimeout, Option.mem_toList.1 hseed]
      simp only [numberScalar_eq_error hlarge]
      rfl
  · rw [numberScalar_eq_error (by omega)]
    rfl

theorem record_sections : Document.record (w.sections.map Toml.Section.document) =
    w.record (Toml.fieldDocuments (seedScalars c.weights.seed)) := by
  rw [sections, record]
  cases c.weights.seed <;> rfl

theorem areBare_sections : Toml.AreBare (w.sections.map Toml.Section.name) :=
  (by decide : Toml.AreBare ["target", "replay", "weights", "paths"])

theorem readable_sections (h : ¬ c.HasHugeNumber) : ∀ s ∈ w.sections, s.Readable := by
  have htimeout := lt_of_not_hasHugeNumber h List.mem_cons_self
  have hword (n : UInt32) : n.toNat < UInt64.size / 2 := Nat.lt_of_lt_of_le n.toNat_lt (by decide)
  have htarget : Toml.AreBare ["data_dir", "database", "busy_timeout_ms"] := by decide
  have hreplay : Toml.AreBare ["log_path", "block_start", "comment_marker"] := by decide
  have hpaths : Toml.AreBare ["config_file", "event_log"] := by decide
  have hname : ∀ s ∈ w.sections, Toml.IsBare s.name := fun s hs =>
    w.areBare_sections.1 s.name (List.mem_map_of_mem hs)
  simp only [sections, List.forall_mem_cons] at hname ⊢
  obtain ⟨hname₁, hname₂, hname₃, hname₄, -⟩ := hname
  refine ⟨⟨hname₁, htarget, ?_⟩, ⟨hname₂, hreplay, ?_⟩, ⟨hname₃, ?_, ?_⟩, ⟨hname₄, hpaths, ?_⟩,
    nofun⟩
  · simpa [Toml.Scalar.Fits] using htimeout
  · simp [Toml.Scalar.Fits]
  · cases c.weights.seed with
    | none =>
      exact (by decide : Toml.AreBare ["output_path", "min_weight", "max_weight", "options"])
    | some seed =>
      exact (by decide :
        Toml.AreBare ["output_path", "min_weight", "max_weight", "seed", "options"])
  · cases hseed : c.weights.seed with
    | none => simp [seedScalars, Toml.Scalar.Fits, hword]
    | some seed =>
      have hfits := lt_of_not_hasHugeNumber h (n := seed) (by simp [hseed])
      simpa [seedScalars, Toml.Scalar.Fits, hword] using hfits
  · simp [Toml.Scalar.Fits]

end Spelling

variable {c : Config}

theorem fileText_eq_error_number (hpath : ¬ c.HasUnreadablePath) (hnumber : c.HasHugeNumber) :
    c.fileText = .error .number := by
  obtain ⟨w⟩ := nonempty_spelling_iff.2 hpath
  rw [fileText, w.sections_eq_error hnumber]
  rfl

/-- Settings are read back from the file that they are written as. -/
theorem ofFileText_fileText (hpath : ¬ c.HasUnreadablePath) (hnumber : ¬ c.HasHugeNumber) :
    ∃ text, c.fileText = .ok text ∧
      ∀ home, ofFileText (.default home) (text ++ ['\n']) = .ok c := by
  obtain ⟨w⟩ := nonempty_spelling_iff.2 hpath
  refine ⟨Toml.printSections w.sections, ?_, fun home => ?_⟩
  · rw [fileText, w.sections_eq hnumber]
    rfl
  · have hne : w.sections ≠ [] := List.cons_ne_nil _ _
    have hparse := Toml.parse?_printSections hne (w.readable_sections hnumber)
      w.areBare_sections.2
    have hseed : GivesSeed (Config.default home).weights.seed
        (Toml.fieldDocuments (Spelling.seedScalars c.weights.seed)) c.weights.seed := by
      cases c.weights.seed with
      | none => exact .missing
      | some seed => exact .named (seed?_ofNat seed)
    rw [ofFileText, hparse, Option.bind_some, w.record_sections,
      w.ofDocument?_record .lenient hseed]

end SqlReplay.Config
