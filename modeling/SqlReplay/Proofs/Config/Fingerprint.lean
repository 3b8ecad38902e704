import SqlReplay.Proofs.Config.Canonical
import SqlReplay.Proofs.Hash.Fnv

/-!
# The hash of settings

Settings whose paths are texts have a hash: sixteen digits that denote the FNV-1a value of their
canonical text.  It tells apart all settings whose canonical texts differ in one byte
(`stableHash_tells_byte`).
-/

namespace SqlReplay.Config

open Storage

theorem stableHash_eq_ok {c : Config} {text : List Char} (h : c.canonical? = some text) :
    c.stableHash = .ok (Fnv.hashText (Utf8.encode text)) := by
  rw [stableHash, h]

/-- Settings whose paths are texts have a hash.  It is a text of sixteen lower-case hexadecimal
digits, which denote the FNV-1a value of the canonical text.  Other settings have another one if
their canonical text is as long and differs in one byte. -/
theorem stableHash_tells_byte (c : Config) (readable : ¬ c.HasUnreadablePath) :
    ∃ text hash, c.canonical? = some text ∧ c.stableHash = .ok hash ∧
      hash.length = 16 ∧ (∀ d ∈ hash.toList, d ∈ "0123456789abcdef".toList) ∧
      Toml.hexNumber? hash.toList = some (Fnv.value (Utf8.encode text)) ∧
      ∀ (other : Config) (text' : List Char), other.canonical? = some text' →
        DifferAtOne (Utf8.encode text) (Utf8.encode text') →
          ∃ hash', other.stableHash = .ok hash' ∧ hash' ≠ hash := by
  obtain ⟨text, htext⟩ := exists_canonical?_eq_some_iff.2 readable
  refine ⟨text, _, htext, stableHash_eq_ok htext, Fnv.length_hashText _,
    fun _ => Fnv.mem_hashText, Fnv.hexNumber?_hashText _, ?_⟩
  intro other text' htext' hdiffer
  refine ⟨_, stableHash_eq_ok htext', fun e => ?_⟩
  exact Fnv.hash_ne_of_differAtOne hdiffer (Fnv.hash_eq_of_hashText_eq e.symm)

/-- Settings with all kinds of texts in them, and a least weight of one digit. -/
def unrulyFrom (least : UInt32) : Config :=
  { unruly with weights := { unruly.weights with minWeight := least } }

/-- The canonical text in bytes. -/
def canonicalBytes (c : Config) : Bytes := (c.canonical?.map Utf8.encode).getD []

/-- The canonical texts part in the digit of the least weight, after which a hundred bytes and more
are the same. -/
theorem stableHash_tells_byte_unruly : ¬ (unrulyFrom 3).HasUnreadablePath ∧
    ∃ hash hash', (unrulyFrom 3).stableHash = .ok hash ∧ (unrulyFrom 4).stableHash = .ok hash' ∧
      hash' ≠ hash := by
  have hreadable (least : UInt32) : ¬ (unrulyFrom least).HasUnreadablePath :=
    nonempty_spelling_iff.1 ⟨⟨"dir\\\"é/", "", "w", "c", "e", rfl, rfl, rfl, rfl, rfl⟩⟩
  obtain ⟨text, hash, htext, hhash, -, -, -, htells⟩ := stableHash_tells_byte _ (hreadable 3)
  obtain ⟨text', htext'⟩ := exists_canonical?_eq_some_iff.2 (hreadable 4)
  have hbytes : Utf8.encode text = (unrulyFrom 3).canonicalBytes := by simp [canonicalBytes, htext]
  have hbytes' : Utf8.encode text' = (unrulyFrom 4).canonicalBytes := by
    simp [canonicalBytes, htext']
  have hsplit : (unrulyFrom 3).canonicalBytes = (unrulyFrom 3).canonicalBytes.take 218 ++
      51 :: (unrulyFrom 3).canonicalBytes.drop 219 := by decide +kernel
  have hsplit' : (unrulyFrom 4).canonicalBytes = (unrulyFrom 3).canonicalBytes.take 218 ++
      52 :: (unrulyFrom 3).canonicalBytes.drop 219 := by decide +kernel
  have hdiffer : DifferAtOne (Utf8.encode text) (Utf8.encode text') := by
    rw [hbytes, hbytes', hsplit, hsplit']
    exact differAtOne_append _ (by decide) _
  obtain ⟨hash', hhash', hne⟩ := htells _ text' htext' hdiffer
  exact ⟨hreadable 3, hash, hash', hhash, hhash', hne⟩

end SqlReplay.Config
