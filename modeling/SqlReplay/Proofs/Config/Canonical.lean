import SqlReplay.Proofs.Config.Records
import SqlReplay.Proofs.Document.JsonRoundTrip

/-!
# The canonical text of settings

Settings whose paths are texts have a canonical text, from which they are read back, whatever the
defaults are.  So settings with one canonical text are the same (`canonical_determines`), and what
identifies the text identifies the settings.
-/

namespace SqlReplay.Config

open Storage

variable {c : Config}

namespace Spelling

/-- As data, settings always tell their seed, by `null` if they have none. -/
theorem document?_eq (w : c.Spelling) : ∃ seed, seed? seed = some c.weights.seed ∧ seed.Plain ∧
    c.document? = some (w.record [("seed", seed)]) := by
  unfold document?
  simp only [Path.text?_eq_some_iff.2 w.dataDir_eq, Path.text?_eq_some_iff.2 w.logPath_eq,
    Path.text?_eq_some_iff.2 w.outputPath_eq, Path.text?_eq_some_iff.2 w.configFile_eq,
    Path.text?_eq_some_iff.2 w.eventLog_eq, Option.bind_eq_bind, Option.bind_some, Option.pure_def]
  cases c.weights.seed with
  | none => exact ⟨.null, rfl, .null, rfl⟩
  | some seed => exact ⟨.ofNat seed.toNat, seed?_ofNat seed, .ofNat seed.toNat_lt, rfl⟩

theorem plain_record (w : c.Spelling) {seed : Document} (hseed : seed.Plain) :
    (w.record [("seed", seed)]).Plain := by
  have htimeout : c.target.busyTimeoutMs.toNat < UInt64.size := c.target.busyTimeoutMs.toNat_lt
  have hword (n : UInt32) : n.toNat < UInt64.size := Nat.lt_trans n.toNat_lt (by decide)
  have htexts : ∀ d ∈ c.weights.options.map Document.text, d.Plain := by
    intro d hd
    obtain ⟨s, -, rfl⟩ := List.mem_map.1 hd
    exact .text s
  refine .record ?_
  simp only [List.forall_mem_cons, List.not_mem_nil, false_implies, implies_true, and_true]
  refine ⟨.record ?_, .record ?_, .record ?_, .record ?_⟩
  all_goals simp only [List.forall_mem_cons, List.forall_mem_append, List.not_mem_nil,
    false_implies, implies_true, and_true]
  · exact ⟨.text _, .text _, .ofNat htimeout⟩
  · exact ⟨.text _, .text _, .text _⟩
  · exact ⟨⟨⟨.text _, .ofNat (hword _), .ofNat (hword _)⟩, hseed⟩, .list htexts⟩
  · exact ⟨.text _, .text _⟩

/-- Settings are read back from their canonical text. -/
theorem canonical?_eq (w : c.Spelling) : ∃ text, c.canonical? = some text ∧
    ∀ base, (Document.ofJson? text).bind (ofDocument? .exact base) = some c := by
  obtain ⟨seed, hseed, hplain, hdocument⟩ := w.document?_eq
  have hread : Document.ofJson? ((w.record [("seed", seed)]).json ++ []) = _ :=
    Document.ofJson?_json (w.plain_record hplain) nofun
  rw [List.append_nil] at hread
  refine ⟨(w.record [("seed", seed)]).json, ?_, fun base => ?_⟩
  · rw [canonical?, hdocument, Option.map_some]
  · rw [hread, Option.bind_some]
    exact w.ofDocument?_record .exact (.named hseed)

end Spelling

/-- Settings have a canonical text if and only if their paths are texts. -/
theorem exists_canonical?_eq_some_iff :
    (∃ text, c.canonical? = some text) ↔ ¬ c.HasUnreadablePath := by
  rw [← document?_eq_none_iff, canonical?]
  cases c.document? <;> simp

/-- Settings whose paths are texts have a canonical text, which is what their hash is made of. They
are read back from it, and no other settings have it. -/
theorem canonical_determines (c : Config) (readable : ¬ c.HasUnreadablePath) :
    ∃ text, c.canonical? = some text ∧
      c.stableHash = .ok (Fnv.hashText (Utf8.encode text)) ∧
      (∀ base, (Document.ofJson? text).bind (ofDocument? .exact base) = some c) ∧
      ∀ other : Config, other.canonical? = some text → other = c := by
  obtain ⟨w⟩ := nonempty_spelling_iff.2 readable
  obtain ⟨text, htext, hread⟩ := w.canonical?_eq
  refine ⟨text, htext, ?_, hread, ?_⟩
  · rw [stableHash, htext]
  · intro other hother
    obtain ⟨w'⟩ := nonempty_spelling_iff.2 (exists_canonical?_eq_some_iff.1 ⟨text, hother⟩)
    obtain ⟨text', htext', hread'⟩ := w'.canonical?_eq
    obtain rfl : text = text' := Option.some.inj (hother.symm.trans htext')
    exact Option.some.inj ((hread' c).symm.trans (hread c))

/-- Settings with quotes, controls and characters beyond ASCII in their texts, and with the greatest
numbers. -/
def unruly : Config where
  target := ⟨.ofString "dir\\\"é/", "a\"b", 18446744073709551615⟩
  replay := ⟨.ofString "", "\x00\n\x1f", "\u2028😀"⟩
  weights := ⟨.ofString "w", 0, 4294967295, some 18446744073709551615, ["", ",\":\x7f", "null"]⟩
  files := ⟨.ofString "c", .ofString "e"⟩

theorem canonical_determines_unruly : ¬ unruly.HasUnreadablePath ∧
    ∃ text, unruly.canonical? = some text ∧
      (Document.ofJson? text).bind (ofDocument? .exact (.default ⟨[]⟩)) = some unruly ∧
      ∀ other : Config, other.canonical? = some text → other = unruly := by
  have readable : ¬ unruly.HasUnreadablePath :=
    nonempty_spelling_iff.1 ⟨⟨"dir\\\"é/", "", "w", "c", "e", rfl, rfl, rfl, rfl, rfl⟩⟩
  obtain ⟨text, htext, -, hread, hother⟩ := canonical_determines unruly readable
  exact ⟨readable, text, htext, hread _, hother⟩

end SqlReplay.Config
