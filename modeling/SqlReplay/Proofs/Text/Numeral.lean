import SqlReplay.Text.Natural

/-!
# Reading numerals

The decimal numeral of a number up to the limit is read back as that number (`readNatural_repr`).
Numbers are written in other ways too, with a sign or leading zeros; those that are read are the
texts that denote a number up to the limit (`readNatural_eq_ok_iff`).
-/

namespace SqlReplay.Text

theorem digit?_of_isDigit {c : Char} (h : c.isDigit = true) :
    digit? c = some (c.toNat - '0'.toNat) := if_pos h

theorem isDigit_bounds {c : Char} (h : c.isDigit = true) : 48 ≤ c.toNat ∧ c.toNat ≤ 57 := by
  rw [Char.isDigit, Bool.and_eq_true, decide_eq_true_eq, decide_eq_true_eq, ge_iff_le,
    UInt32.le_iff_toNat_le, UInt32.le_iff_toNat_le] at h
  exact h

theorem le_ofDigitChars (cs : List Char) (n : Nat) : n ≤ Nat.ofDigitChars 10 cs n := by
  induction cs generalizing n with
  | nil => exact Nat.le_refl n
  | cons c cs ih =>
    rw [Nat.ofDigitChars_cons]
    have h := ih (10 * n + (c.toNat - '0'.toNat))
    omega

theorem readDigits_eq_ok {limit : Nat} {cs : List Char} (hdigits : ∀ c ∈ cs, c.isDigit = true)
    {n : Nat} (hle : Nat.ofDigitChars 10 cs n ≤ limit) :
    readDigits limit n cs = .ok (Nat.ofDigitChars 10 cs n) := by
  induction cs generalizing n with
  | nil => rfl
  | cons c cs ih =>
    have hc := digit?_of_isDigit (hdigits c List.mem_cons_self)
    rw [Nat.ofDigitChars_cons] at hle ⊢
    have hnext := le_ofDigitChars cs (10 * n + (c.toNat - '0'.toNat))
    simp only [readDigits, hc]
    rw [if_neg (by omega)]
    exact ih (fun c' hc' => hdigits c' (List.mem_cons_of_mem c hc')) hle

theorem isDigit_of_mem_repr {n : Nat} {c : Char} (h : c ∈ n.repr.toList) : c.isDigit = true := by
  rw [Nat.toList_repr] at h
  exact Nat.isDigit_of_mem_toDigits (by decide) (by decide) h

theorem repr_toList_ne_nil (n : Nat) : n.repr.toList ≠ [] := by
  rw [Nat.toList_repr]
  exact Nat.toDigits_ne_nil

theorem readNatural_repr {limit n : Nat} (h : n ≤ limit) :
    readNatural limit n.repr.toList = .ok n := by
  have hdigits : ∀ c ∈ n.repr.toList, c.isDigit = true := fun c hc => isDigit_of_mem_repr hc
  have hvalue : Nat.ofDigitChars 10 n.repr.toList 0 = n := by
    rw [Nat.toList_repr]
    exact Nat.ofDigitChars_toDigits (by decide) (by decide)
  have hread : readDigits limit 0 n.repr.toList = .ok n := by
    rw [readDigits_eq_ok hdigits (by rw [hvalue]; exact h), hvalue]
  unfold readNatural
  split
  · next heq => exact absurd heq (repr_toList_ne_nil n)
  · next heq =>
    have hplus := hdigits '+' (by rw [heq]; exact List.mem_cons_self)
    exact absurd hplus (by decide)
  · exact hread

theorem readUInt32_repr (w : UInt32) : readUInt32 w.toNat.repr.toList = .ok w := by
  have hle : w.toNat ≤ UInt32.size - 1 := Nat.le_sub_one_of_lt w.toNat_lt
  rw [readUInt32, readNatural_repr hle, Except.map, UInt32.ofNat_toNat]

/-! ## Everything that is read -/

/-- Whether a text denotes a number: digits, of which there is one at least, after one plus sign at
most. -/
def Denotes (cs : List Char) (n : Nat) : Prop :=
  ∃ digits, (cs = digits ∨ cs = '+' :: digits) ∧ digits ≠ [] ∧
    (∀ c ∈ digits, c.isDigit = true) ∧ Nat.ofDigitChars 10 digits 0 = n

theorem Denotes.mem {cs : List Char} {n : Nat} (h : Denotes cs n) {c : Char} (hc : c ∈ cs) :
    c = '+' ∨ c.isDigit = true := by
  obtain ⟨digits, rfl | rfl, -, hdigits, -⟩ := h
  · exact Or.inr (hdigits c hc)
  · rcases List.mem_cons.1 hc with rfl | hc
    · exact Or.inl rfl
    · exact Or.inr (hdigits c hc)

theorem readDigits_eq_ok_iff {limit n m : Nat} {cs : List Char} (hn : n ≤ limit) :
    readDigits limit n cs = .ok m ↔
      (∀ c ∈ cs, c.isDigit = true) ∧ Nat.ofDigitChars 10 cs n = m ∧ m ≤ limit := by
  constructor
  · intro h
    induction cs generalizing n with
    | nil =>
      cases h
      exact ⟨nofun, rfl, hn⟩
    | cons c cs ih =>
      by_cases hc : c.isDigit = true
      · simp only [readDigits, digit?_of_isDigit hc] at h
        split at h
        · cases h
        · next hle =>
          obtain ⟨hdigits, hvalue, hlimit⟩ := ih (Nat.le_of_not_lt hle) h
          refine ⟨?_, by rw [Nat.ofDigitChars_cons, hvalue], hlimit⟩
          intro c' hc'
          rcases List.mem_cons.1 hc' with rfl | hc'
          · exact hc
          · exact hdigits c' hc'
      · have hnone : digit? c = none := if_neg hc
        simp only [readDigits, hnone, reduceCtorEq] at h
  · rintro ⟨hdigits, rfl, hlimit⟩
    exact readDigits_eq_ok hdigits hlimit

theorem readNatural_eq_ok_iff {limit n : Nat} {cs : List Char} :
    readNatural limit cs = .ok n ↔ Denotes cs n ∧ n ≤ limit := by
  have hplus : ¬ Char.isDigit '+' = true := by decide
  constructor
  · intro h
    unfold readNatural at h
    split at h
    · cases h
    · next digits =>
      split at h
      · cases h
      · next hne =>
        obtain ⟨hdigits, hvalue, hlimit⟩ := (readDigits_eq_ok_iff (Nat.zero_le limit)).1 h
        rw [List.isEmpty_iff] at hne
        exact ⟨⟨digits, Or.inr rfl, hne, hdigits, hvalue⟩, hlimit⟩
    · next hnil _ =>
      obtain ⟨hdigits, hvalue, hlimit⟩ := (readDigits_eq_ok_iff (Nat.zero_le limit)).1 h
      exact ⟨⟨cs, Or.inl rfl, hnil, hdigits, hvalue⟩, hlimit⟩
  · rintro ⟨⟨digits, hcs, hne, hdigits, hvalue⟩, hlimit⟩
    have hread : readDigits limit 0 digits = .ok n :=
      (readDigits_eq_ok_iff (Nat.zero_le limit)).2 ⟨hdigits, hvalue, hlimit⟩
    unfold readNatural
    rcases hcs with rfl | rfl
    · split
      · next heq => exact absurd rfl hne
      · exact absurd (hdigits '+' List.mem_cons_self) hplus
      · exact hread
    · have hfull : ¬ digits.isEmpty = true := fun e => hne (List.isEmpty_iff.1 e)
      exact (if_neg hfull).trans hread

theorem readUInt32_eq_ok_iff {cs : List Char} {w : UInt32} :
    readUInt32 cs = .ok w ↔ Denotes cs w.toNat := by
  have hlimit : w.toNat ≤ UInt32.size - 1 := Nat.le_sub_one_of_lt w.toNat_lt
  rw [readUInt32]
  constructor
  · intro h
    cases hread : readNatural (UInt32.size - 1) cs with
    | error fault =>
      rw [hread] at h
      cases h
    | ok n =>
      rw [hread] at h
      cases h
      obtain ⟨hdenotes, hn⟩ := readNatural_eq_ok_iff.1 hread
      have hsmall : n < 2 ^ 32 := Nat.lt_of_le_of_lt hn (by decide)
      rwa [UInt32.toNat_ofNat_of_lt' hsmall]
  · intro h
    rw [readNatural_eq_ok_iff.2 ⟨h, hlimit⟩, Except.map, UInt32.ofNat_toNat]

end SqlReplay.Text
