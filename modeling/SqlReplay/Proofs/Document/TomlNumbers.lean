import Mathlib.Tactic.SplitIfs
import SqlReplay.Document.Toml.Reader
import SqlReplay.Proofs.Document.TomlTree

/-!
# The numbers of a TOML text

All integers of the data tree that a TOML text denotes have 64 bits with sign (`parse?_signed`), for
no other integers are read.
-/

namespace SqlReplay.Toml

variable {d : Document} {es : Entries}

/-! ## Scalars -/

theorem integerNode?_signed {n : Int} (h : integerNode? n = some d) : d.Signed := by
  unfold integerNode? at h
  split at h
  · next hn =>
    cases h
    exact .integer hn
  · cases h

theorem integer?_signed {cs : List Char} (h : integer? cs = some d) : d.Signed := by
  unfold integer? at h
  split at h
  iterate 3
    obtain ⟨ds, -, hnode⟩ := Option.bind_eq_some_iff.1 h
    exact integerNode?_signed hnode
  simp only at h
  split at h
  · cases h
  · split at h
    · cases h
    · exact integerNode?_signed h

theorem real?_signed {cs : List Char} (h : real? cs = some d) : d.Signed := by
  unfold real? at h
  simp only at h
  split at h
  · cases h
    exact .real _
  · split at h
    · split at h
      · cases h
      · split at h
        · cases h
        · cases h
          exact .real _
    · cases h

theorem readScalar?_signed {cs rest : List Char} (h : readScalar? cs = some (d, rest)) :
    d.Signed := by
  unfold readScalar? at h
  simp only at h
  split_ifs at h
  · cases h
    exact .flag true
  · cases h
    exact .flag false
  · cases h
    refine .record fun f hf => ?_
    obtain rfl := List.mem_singleton.1 hf
    exact .text _
  · split at h
    · next hinteger =>
      cases h
      exact integer?_signed hinteger
    · obtain ⟨d', hreal, heq⟩ := Option.map_eq_some_iff.1 h
      cases heq
      exact real?_signed hreal

/-! ## Values -/

/-- Whether the readers of values, given some fuel, let no other integers in. -/
structure ReadsSigned (fuel : Nat) : Prop where
  value {depth : Nat} {cs rest : List Char} {d : Document}
    (h : readValue fuel depth cs = some (d, rest)) : d.Signed
  items {depth : Nat} {cs rest : List Char} {items : List Document}
    (h : readItems fuel depth cs = some (items, rest)) : ∀ d ∈ items, d.Signed
  pairs {depth : Nat} {cs rest : List Char} {es es' : Entries} (hes : SignedEntries es)
    (h : readPairs fuel depth es cs = some (es', rest)) : SignedEntries es'

namespace ReadsSigned

variable {fuel depth : Nat} {cs rest : List Char}

theorem readValue (ih : ReadsSigned fuel)
    (h : Toml.readValue (fuel + 1) depth cs = some (d, rest)) : d.Signed := by
  rw [Toml.readValue.eq_def] at h
  simp only at h
  split at h
  iterate 2
    obtain ⟨s, -, heq⟩ := Option.map_eq_some_iff.1 h
    cases heq
    exact .text _
  · cases h
  · obtain ⟨⟨items, cs⟩, hread, heq⟩ := Option.map_eq_some_iff.1 h
    cases heq
    exact .list (ih.items hread)
  · cases h
  · split at h
    · cases h
      exact .record nofun
    · obtain ⟨⟨es, cs⟩, hread, heq⟩ := Option.map_eq_some_iff.1 h
      cases heq
      exact (ih.pairs signedEntries_nil hread).document
  · exact readScalar?_signed h

theorem readItems (ih : ReadsSigned fuel) {items : List Document}
    (h : Toml.readItems (fuel + 1) depth cs = some (items, rest)) : ∀ d ∈ items, d.Signed := by
  rw [Toml.readItems] at h
  split at h
  · cases h
    exact nofun
  · obtain ⟨⟨item, cs⟩, hitem, h⟩ := Option.bind_eq_some_iff.1 h
    simp only at h
    split at h
    · cases h
      exact List.forall_mem_singleton.2 (ih.value hitem)
    · obtain ⟨⟨more, cs⟩, hmore, heq⟩ := Option.map_eq_some_iff.1 h
      cases heq
      exact List.forall_mem_cons.2 ⟨ih.value hitem, ih.items hmore⟩
    · cases h

theorem readPairs (ih : ReadsSigned fuel) {es' : Entries} (hes : SignedEntries es)
    (h : Toml.readPairs (fuel + 1) depth es cs = some (es', rest)) : SignedEntries es' := by
  rw [Toml.readPairs] at h
  obtain ⟨⟨key, cs⟩, -, h⟩ := Option.bind_eq_some_iff.1 h
  obtain ⟨cs, -, h⟩ := Option.bind_eq_some_iff.1 h
  obtain ⟨⟨d, cs⟩, hd, h⟩ := Option.bind_eq_some_iff.1 h
  obtain ⟨es₁, hassign, h⟩ := Option.bind_eq_some_iff.1 h
  have hes₁ := keepsSigned_assign (ih.value hd) key hes hassign
  split at h
  · cases h
    exact hes₁
  · exact ih.pairs hes₁ h
  · cases h

end ReadsSigned

theorem readsSigned (fuel : Nat) : ReadsSigned fuel := by
  induction fuel with
  | zero => exact ⟨nofun, nofun, nofun⟩
  | succ fuel ih => exact ⟨ih.readValue, ih.readItems, ih.readPairs⟩

/-! ## Documents -/

theorem readEntry?_signed {draft draft' : Draft} {cs rest : List Char}
    (hdraft : SignedEntries draft.entries) (h : readEntry? draft cs = some (draft', rest)) :
    SignedEntries draft'.entries := by
  unfold readEntry? at h
  split at h
  · obtain ⟨⟨keys, cs⟩, -, h⟩ := Option.bind_eq_some_iff.1 h
    obtain ⟨cs, -, h⟩ := Option.bind_eq_some_iff.1 h
    obtain ⟨es, hopen, h⟩ := Option.bind_eq_some_iff.1 h
    cases h
    exact keepsSigned_openItem keys hdraft hopen
  · obtain ⟨⟨keys, cs⟩, -, h⟩ := Option.bind_eq_some_iff.1 h
    obtain ⟨cs, -, h⟩ := Option.bind_eq_some_iff.1 h
    obtain ⟨es, hopen, h⟩ := Option.bind_eq_some_iff.1 h
    cases h
    exact keepsSigned_openTable keys hdraft hopen
  · obtain ⟨⟨keys, cs⟩, -, h⟩ := Option.bind_eq_some_iff.1 h
    obtain ⟨cs, -, h⟩ := Option.bind_eq_some_iff.1 h
    obtain ⟨⟨d, cs⟩, hd, h⟩ := Option.bind_eq_some_iff.1 h
    obtain ⟨es, hassign, h⟩ := Option.bind_eq_some_iff.1 h
    cases h
    have hkeeps := keepsSigned_assign ((readsSigned _).value hd) keys
    exact hkeeps.descend _ hdraft hassign

theorem readEntries_signed {fuel : Nat} {draft : Draft} {cs : List Char}
    (hdraft : SignedEntries draft.entries) (h : readEntries fuel draft cs = some es) :
    SignedEntries es := by
  induction fuel generalizing draft cs with
  | zero => cases h
  | succ fuel ih =>
    rw [readEntries] at h
    split at h
    · cases h
      exact hdraft
    · obtain ⟨⟨draft', cs⟩, hentry, h⟩ := Option.bind_eq_some_iff.1 h
      obtain ⟨cs, -, h⟩ := Option.bind_eq_some_iff.1 h
      exact ih (readEntry?_signed hdraft hentry) h

/-- All integers of the data tree that a text denotes have 64 bits with sign. -/
theorem parse?_signed {cs : List Char} (h : parse? cs = some d) : d.Signed := by
  obtain ⟨es, hread, rfl⟩ := Option.map_eq_some_iff.1 h
  exact (readEntries_signed signedEntries_nil hread).document

end SqlReplay.Toml
