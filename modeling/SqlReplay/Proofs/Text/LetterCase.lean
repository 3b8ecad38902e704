import Mathlib.Data.Nat.Notation
import SqlReplay.Proofs.Text.Cuts
import SqlReplay.Text.Uppercase

/-!
# The case of letters

Upper-casing maps each letter of ASCII to its capital, but it also maps some other characters to
letters of ASCII, or to several characters.  A phrase that none of these run into (`IsPlain`) begins
the upper case of a text only if it begins the text itself, the case of letters of ASCII aside
(`prefix_upper_iff`).  Cutting into lines and trimming do not depend on the case of letters of ASCII
(`lines_map_toUpper`, `trim_map_toUpper`).
-/

namespace SqlReplay.Text

/-! ## Letters of ASCII -/

theorem toNat_toUpper (c : Char) :
    c.toUpper.toNat = if 97 ≤ c.toNat ∧ c.toNat ≤ 122 then c.toNat - 32 else c.toNat := by
  have hlow : 'a'.val ≤ c.val ↔ 97 ≤ c.toNat := UInt32.le_iff_toNat_le
  have hhigh : c.val ≤ 'z'.val ↔ c.toNat ≤ 122 := UInt32.le_iff_toNat_le
  unfold Char.toUpper
  split
  · next h =>
    rw [hlow, hhigh] at h
    rw [if_pos h]
    have hval : c.val.toNat = c.toNat := rfl
    show (c.val + ('A'.val - 'a'.val)).toNat = c.toNat - 32
    rw [UInt32.toNat_add, show ('A'.val - 'a'.val).toNat = 4294967264 from rfl]
    omega
  · next h =>
    rw [hlow, hhigh] at h
    rw [if_neg h]

theorem toUpper_eq_self {c : Char} (h : 128 ≤ c.toNat) : c.toUpper = c := by
  rw [← Char.toNat_inj, toNat_toUpper, if_neg (by omega)]

theorem toUpper_toUpper (c : Char) : c.toUpper.toUpper = c.toUpper := by
  rw [← Char.toNat_inj, toNat_toUpper, toNat_toUpper]
  grind

/-- Only a character before the letters is mapped to itself. -/
theorem toUpper_eq_iff {d : Char} (h : d.toNat < 65) (c : Char) : c.toUpper = d ↔ c = d := by
  rw [← Char.toNat_inj, ← Char.toNat_inj, toNat_toUpper]
  split <;> omega

theorem isBlank_toUpper (c : Char) : isBlank c.toUpper = isBlank c := by
  rw [Bool.eq_iff_iff]
  simp only [isBlank, blankRanges, List.any_cons, List.any_nil, Bool.or_eq_true, Bool.and_eq_true,
    decide_eq_true_eq, toNat_toUpper]
  split
  · simp
    omega
  · rfl

/-! ## Lines and blanks -/

theorem dropReturn_map_toUpper (line : List Char) :
    dropReturn (line.map Char.toUpper) = (dropReturn line).map Char.toUpper := by
  cases line with
  | nil => rfl
  | cons c cs =>
    by_cases hc : c = '\r'
    · subst hc
      rfl
    · have hupper : c.toUpper ≠ '\r' := fun h => hc ((toUpper_eq_iff (by decide) c).1 h)
      rw [dropReturn_eq_self (by simpa using hupper), dropReturn_eq_self (by simpa using hc)]

theorem linesFrom_map_toUpper (line cs : List Char) :
    linesFrom (line.map Char.toUpper) (cs.map Char.toUpper) =
      (linesFrom line cs).map (List.map Char.toUpper) := by
  induction cs generalizing line with
  | nil =>
    rw [List.map_nil, linesFrom, linesFrom, List.isEmpty_map]
    split
    · rfl
    · rw [List.map_singleton, List.map_reverse]
  | cons c cs ih =>
    rw [List.map_cons, linesFrom, linesFrom]
    by_cases hc : c = '\n'
    · rw [if_pos hc, if_pos ((toUpper_eq_iff (by decide) c).2 hc), List.map_cons, List.map_reverse,
        dropReturn_map_toUpper, ← ih, List.map_nil]
    · have hupper : c.toUpper ≠ '\n' := fun h => hc ((toUpper_eq_iff (by decide) c).1 h)
      rw [if_neg hc, if_neg hupper, ← ih, List.map_cons]

theorem lines_map_toUpper (cs : List Char) :
    lines (cs.map Char.toUpper) = (lines cs).map (List.map Char.toUpper) :=
  linesFrom_map_toUpper [] cs

theorem trimStart_map_toUpper (cs : List Char) :
    trimStart (cs.map Char.toUpper) = (trimStart cs).map Char.toUpper := by
  rw [trimStart, List.dropWhile_map, trimStart]
  simp only [Function.comp_def, isBlank_toUpper]

theorem trim_map_toUpper (cs : List Char) :
    trim (cs.map Char.toUpper) = (trim cs).map Char.toUpper := by
  have hend (ds : List Char) : trimEnd (ds.map Char.toUpper) = (trimEnd ds).map Char.toUpper := by
    have hstart := trimStart_map_toUpper ds.reverse
    rw [trimStart, trimStart] at hstart
    rw [trimEnd, ← List.map_reverse, hstart, ← List.map_reverse, trimEnd]
  rw [trim, trimStart_map_toUpper, hend, trim]

/-! ## Other characters -/

theorem upperChar_of_lt {c : Char} (h : c.toNat < 128) : upperChar c = [c.toUpper] := if_pos h

/-- What lies above ASCII does not fall into it, apart from what is no character. -/
theorem toNat_ofNat_of_le {n : ℕ} (h : 128 ≤ n) :
    128 ≤ (Char.ofNat n).toNat ∨ (Char.ofNat n).toNat = 0 := by
  by_cases hvalid : n.isValidChar
  · rw [Char.ofNat, dif_pos hvalid]
    exact Or.inl h
  · rw [Char.ofNat, dif_neg hvalid]
    exact Or.inr rfl

/-- Of the single characters outside ASCII only the dotless i and the long s become letters. -/
theorem shift_cases {r : CaseRun} (hr : r ∈ caseRuns) {n : ℕ} (hn : r.covers n = true) :
    128 ≤ r.shift n ∨ r.shift n = 'I'.toNat ∨ r.shift n = 'S'.toNat := by
  have hruns : ∀ r ∈ caseRuns, 128 ≤ (r.first : Int) + r.offset ∨
      r.first = r.last ∧ (r.shift r.first = 'I'.toNat ∨ r.shift r.first = 'S'.toNat) := by
    decide +kernel
  simp only [CaseRun.covers, Bool.and_eq_true, decide_eq_true_eq] at hn
  obtain ⟨⟨hfirst, hlast⟩, -⟩ := hn
  rcases hruns r hr with habove | ⟨hsingle, hletter⟩
  · left
    rw [CaseRun.shift]
    omega
  · obtain rfl : n = r.first := by omega
    exact Or.inr hletter

/-- The upper case of a character outside ASCII is one of the expansions or a single character,
which is then a letter for two of them only. -/
theorem upperChar_cases {c : Char} (h : 128 ≤ c.toNat) :
    (∃ e ∈ caseExpansions, upperChar c = e.2.map Char.ofNat) ∨
      ∃ d : Char, upperChar c = [d] ∧ (128 ≤ d.toNat ∨ d.toNat = 0 ∨ d = 'I' ∨ d = 'S') := by
  rw [upperChar, if_neg (by omega)]
  split
  · next ns hlookup =>
    obtain ⟨before, after, hsplit, -⟩ := List.lookup_eq_some_iff.1 hlookup
    exact Or.inl ⟨(c.toNat, ns), by simp [hsplit], rfl⟩
  · split
    · next r hrun =>
      refine Or.inr ⟨_, rfl, ?_⟩
      have hcovers := List.find?_some (p := (CaseRun.covers · c.toNat)) hrun
      rcases shift_cases (List.mem_of_find?_eq_some hrun) hcovers with habove | hletter | hletter
      · rcases toNat_ofNat_of_le habove with habove | hnone
        · exact Or.inl habove
        · exact Or.inr (Or.inl hnone)
      · rw [hletter]
        exact Or.inr (Or.inr (Or.inl rfl))
      · rw [hletter]
        exact Or.inr (Or.inr (Or.inr rfl))
    · exact Or.inr ⟨c, rfl, Or.inl h⟩

/-! ## Phrases -/

/-- Whether a phrase is of characters of ASCII and no upper case of another character goes along
with it, or with the rest of it from some character on. -/
def IsPlain : List Char → Prop
  | [] => True
  | q :: qs => (0 < q.toNat ∧ q.toNat < 128 ∧ q ≠ 'I' ∧ q ≠ 'S') ∧
      (∀ e ∈ caseExpansions, ¬ e.2.map Char.ofNat <+: q :: qs ∧ ¬ q :: qs <+: e.2.map Char.ofNat) ∧
      IsPlain qs

instance decidableIsPlain : (phrase : List Char) → Decidable (IsPlain phrase)
  | [] => inferInstanceAs (Decidable True)
  | _ :: qs =>
    have := decidableIsPlain qs
    inferInstanceAs (Decidable (_ ∧ _ ∧ _))

/-- A text whose first character is not in ASCII does not begin with a plain phrase, whatever its
upper case. -/
theorem not_prefix_upper {q c : Char} {qs cs : List Char} (h : IsPlain (q :: qs))
    (hc : 128 ≤ c.toNat) : ¬ q :: qs <+: upper (c :: cs) := by
  obtain ⟨⟨hpos, hascii, hI, hS⟩, hexpansions, -⟩ := h
  intro hprefix
  have hupper : upper (c :: cs) = upperChar c ++ upper cs := List.flatMap_cons
  rw [hupper] at hprefix
  rcases upperChar_cases hc with ⟨e, he, hexpansion⟩ | ⟨d, hsingle, hd⟩
  · rw [hexpansion] at hprefix
    obtain ⟨hleft, hright⟩ := hexpansions e he
    rcases List.prefix_or_prefix_of_prefix hprefix (List.prefix_append _ _) with hcase | hcase
    · exact hright hcase
    · exact hleft hcase
  · rw [hsingle, List.singleton_append, List.cons_prefix_cons] at hprefix
    obtain ⟨rfl, -⟩ := hprefix
    rcases hd with hd | hd | hd | hd
    · omega
    · omega
    · exact hI hd
    · exact hS hd

/-- A plain phrase begins the upper case of a text only if it begins the text, the case of letters
of ASCII aside. -/
theorem prefix_upper_iff {phrase : List Char} (h : IsPlain phrase) (line : List Char) :
    phrase <+: upper line ↔ phrase <+: line.map Char.toUpper := by
  induction phrase generalizing line with
  | nil => exact iff_of_true List.nil_prefix List.nil_prefix
  | cons q qs ih => cases line with
    | nil => exact Iff.rfl
    | cons c cs =>
      by_cases hc : c.toNat < 128
      · have hupper : upper (c :: cs) = c.toUpper :: upper cs := by
          rw [upper, List.flatMap_cons, upperChar_of_lt hc, List.singleton_append, upper]
        rw [hupper, List.map_cons, List.cons_prefix_cons, List.cons_prefix_cons, ih h.2.2]
      · have hc : 128 ≤ c.toNat := Nat.le_of_not_lt hc
        refine iff_of_false (not_prefix_upper h hc) ?_
        rw [List.map_cons, List.cons_prefix_cons, toUpper_eq_self hc]
        rintro ⟨rfl, -⟩
        have hascii := h.1.2.1
        omega

/-- What holds no letters begins a text whatever the case of its letters. -/
theorem prefix_map_toUpper_iff {marker : List Char} (h : ∀ d ∈ marker, d.toNat < 65)
    (line : List Char) : marker <+: line.map Char.toUpper ↔ marker <+: line := by
  induction marker generalizing line with
  | nil => exact iff_of_true List.nil_prefix List.nil_prefix
  | cons d ds ih => cases line with
    | nil => exact Iff.rfl
    | cons c cs =>
      obtain ⟨hd, hds⟩ := List.forall_mem_cons.1 h
      rw [List.map_cons, List.cons_prefix_cons, List.cons_prefix_cons, ih hds, eq_comm,
        toUpper_eq_iff hd, eq_comm]

end SqlReplay.Text
