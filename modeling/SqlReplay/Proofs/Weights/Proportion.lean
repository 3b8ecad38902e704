import SqlReplay.Proofs.Random.Scaling
import SqlReplay.Weights.Sampler

/-!
# Draws in proportion to weight

An entry owns a stretch of the numbers below the total weight, as long as its weight
(`Sampler.locate_eq_iff`), and every number below the total is given by equally many words.  So of
all 64-bit words, each entry is selected by its weight times one common number of words
(`Sampler.draws_in_proportion`).  A table of at most `2 ^ 32` entries has a total weight of less
than `2 ^ 64`, hence nothing overflows on the way.
-/

namespace SqlReplay.Weights

/-! ## Sums of weights -/

/-- The sum of the weights of some entries. -/
def weightSum (entries : List Entry) : ℕ := (entries.map fun e => e.weight.toNat).sum

@[simp] theorem weightSum_nil : weightSum [] = 0 := rfl

@[simp] theorem weightSum_cons (e : Entry) (entries : List Entry) :
    weightSum (e :: entries) = e.weight.toNat + weightSum entries := rfl

theorem weightSum_le (entries : List Entry) :
    weightSum entries ≤ entries.length * (UInt32.size - 1) := by
  induction entries with
  | nil => simp
  | cons e entries ih =>
    have he := e.weight.toNat_lt
    rw [weightSum_cons, List.length_cons, Nat.add_mul]
    simp only [UInt32.size] at he ih ⊢
    omega

theorem weightSum_pos_iff (entries : List Entry) :
    0 < weightSum entries ↔ ∃ e ∈ entries, e.weight ≠ 0 := by
  induction entries with
  | nil => simp
  | cons e entries ih =>
    have he : e.weight ≠ 0 ↔ 0 < e.weight.toNat := by
      rw [Ne, ← UInt32.toNat_inj, UInt32.toNat_zero]
      omega
    rw [weightSum_cons, List.exists_mem_cons_iff, ← ih, he]
    omega

theorem weightSum_eq_zero_iff {entries : List Entry} :
    weightSum entries = 0 ↔ ∀ e ∈ entries, e.weight = 0 := by
  rw [← Nat.le_zero, ← Nat.not_lt, weightSum_pos_iff]
  simp only [not_exists, not_and, not_not]

theorem weightSum_take_add_le {entries : List Entry} {i : ℕ} {e : Entry}
    (he : entries[i]? = some e) :
    weightSum (entries.take i) + e.weight.toNat ≤ weightSum entries := by
  induction entries generalizing i with
  | nil => cases he
  | cons first rest ih =>
    cases i with
    | zero =>
      cases he
      simp
    | succ i =>
      have hrest := ih (i := i) he
      rw [List.take_succ_cons, weightSum_cons, weightSum_cons]
      omega

/-- Adds weights to a 64-bit number, unless one of the additions overflows. -/
def addWeights? (sum : UInt64) : List Entry → Option UInt64
  | [] => some sum
  | e :: entries =>
    if sum.toNat + e.weight.toNat < UInt64.size then
      addWeights? (sum + e.weight.toUInt64) entries
    else none

theorem addWeights?_eq_some {sum : UInt64} {entries : List Entry}
    (h : sum.toNat + weightSum entries < UInt64.size) :
    ∃ sum', addWeights? sum entries = some sum' ∧
      sum'.toNat = sum.toNat + weightSum entries := by
  induction entries generalizing sum with
  | nil => exact ⟨sum, rfl, rfl⟩
  | cons e entries ih =>
    rw [weightSum_cons] at h
    have hfits : sum.toNat + e.weight.toNat < UInt64.size := by omega
    have hadd : (sum + e.weight.toUInt64).toNat = sum.toNat + e.weight.toNat := by
      rw [UInt64.toNat_add, UInt32.toNat_toUInt64]
      exact Nat.mod_eq_of_lt hfits
    have hrest : (sum + e.weight.toUInt64).toNat + weightSum entries < UInt64.size := by omega
    obtain ⟨sum', hsum', heq⟩ := ih hrest
    refine ⟨sum', ?_, ?_⟩
    · rw [addWeights?, if_pos hfits, hsum']
    · rw [heq, hadd, weightSum_cons]
      omega

/-- The total weight in 64-bit arithmetic, unless an addition overflows. -/
def Table.total64? (table : Table) : Option UInt64 := addWeights? 0 table.entries

theorem weightSum_lt_of_small {table : Table} (small : table.size ≤ 2 ^ 32) :
    weightSum table.entries < UInt64.size := by
  have hsum := weightSum_le table.entries
  have hlength : table.entries.length * (UInt32.size - 1) ≤ 2 ^ 32 * (UInt32.size - 1) :=
    Nat.mul_le_mul_right _ small
  simp only [UInt32.size, UInt64.size] at hsum hlength ⊢
  omega

namespace Sampler

/-! ## The stretch of an entry -/

/-- A number locates the entry whose weight, added to those of the entries before it, is the first
such sum to exceed the number. -/
theorem locate_eq_iff {entries : List Entry} {i : ℕ} {e : Entry} (he : entries[i]? = some e)
    (n : ℕ) : locate entries n = i ↔
      n ∈ Set.Ico (weightSum (entries.take i)) (weightSum (entries.take i) + e.weight.toNat) := by
  rw [Set.mem_Ico]
  induction entries generalizing i n with
  | nil => cases he
  | cons first rest ih =>
    cases i with
    | zero =>
      cases he
      simp only [locate, List.take_zero, weightSum_nil]
      split
      · omega
      · omega
    | succ i =>
      rw [List.getElem?_cons_succ] at he
      have hrest := ih he (n - first.weight.toNat)
      simp only [locate, List.take_succ_cons, weightSum_cons]
      split
      · omega
      · omega

theorem locate_lt {entries : List Entry} {n : ℕ} (h : n < weightSum entries) :
    locate entries n < entries.length := by
  induction entries generalizing n with
  | nil => cases h
  | cons first rest ih =>
    rw [weightSum_cons] at h
    simp only [locate, List.length_cons]
    split
    · omega
    · have hrest := ih (n := n - first.weight.toNat) (by omega)
      omega

/-! ## Samplers of a table -/

theorem entries_of_ofTable_eq_ok {table : Table} {sampler : Sampler}
    (h : ofTable table = .ok sampler) : sampler.entries = table.entries := by
  unfold ofTable at h
  split at h
  · cases h
  · split at h
    · cases h
      rfl
    · cases h

theorem exists_ofTable_eq_ok_iff (table : Table) :
    (∃ sampler, ofTable table = .ok sampler) ↔ 0 < weightSum table.entries := by
  constructor
  · rintro ⟨sampler, h⟩
    have hpos := sampler.total_pos
    rw [sampler.total_eq, entries_of_ofTable_eq_ok h] at hpos
    exact hpos
  · intro h
    have hnonempty : ¬ table.entries.isEmpty = true := by
      intro hempty
      rw [List.isEmpty_iff.1 hempty] at h
      cases h
    exact ⟨⟨table.entries, table.totalWeight, rfl, h⟩, by
      rw [ofTable, if_neg hnonempty]
      exact dif_pos h⟩

variable (sampler : Sampler)

theorem total_eq_weightSum : sampler.total = weightSum sampler.entries := sampler.total_eq

/-! ## The words of an entry -/

theorem select?_eq_some_iff {i : ℕ} {e : Entry} (he : sampler.entries[i]? = some e)
    (word : UInt64) : sampler.select? word = some i ↔
      ∃ k ∈ Finset.Ico (weightSum (sampler.entries.take i))
        (weightSum (sampler.entries.take i) + e.weight.toNat),
          Uniform.accept64? sampler.total word = some k := by
  rw [select?, Option.map_eq_some_iff]
  constructor
  · rintro ⟨k, hk, hi⟩
    exact ⟨k, Finset.mem_Ico.2 ((locate_eq_iff he k).1 hi), hk⟩
  · rintro ⟨k, hi, hk⟩
    exact ⟨k, hk, (locate_eq_iff he k).2 (Finset.mem_Ico.1 hi)⟩

theorem select?_eq_none_iff (word : UInt64) :
    sampler.select? word = none ↔ Uniform.accept64? sampler.total word = none := by
  rw [select?, Option.map_eq_none_iff]

variable (fits : sampler.total ≤ UInt64.size)
include fits

theorem ncard_select?_eq_some {i : ℕ} {e : Entry} (he : sampler.entries[i]? = some e) :
    {word | sampler.select? word = some i}.ncard =
      e.weight.toNat * (UInt64.size / sampler.total) := by
  have hend := weightSum_take_add_le he
  have hcount := Uniform.ncard_results (f := Uniform.accept64? sampler.total)
    (K := Finset.Ico (weightSum (sampler.entries.take i))
      (weightSum (sampler.entries.take i) + e.weight.toNat))
    (c := UInt64.size / sampler.total) (fun k hk => by
      apply Uniform.ncard_accept64?_eq_some sampler.total_pos fits
      rw [Finset.mem_Ico] at hk
      rw [sampler.total_eq_weightSum]
      omega)
  simp only [sampler.select?_eq_some_iff he]
  rw [hcount, Nat.card_Ico, Nat.add_sub_cancel_left]

theorem ncard_select?_eq_none :
    {word | sampler.select? word = none}.ncard = UInt64.size % sampler.total := by
  simp only [select?_eq_none_iff]
  exact Uniform.ncard_accept64?_eq_none sampler.total_pos fits

/-- Only entries of the table are selected, and none of weight zero. -/
theorem exists_of_select?_eq_some {word : UInt64} {i : ℕ} (h : sampler.select? word = some i) :
    ∃ e, sampler.entries[i]? = some e ∧ e.weight ≠ 0 := by
  obtain ⟨k, hk, hlocate⟩ := Option.map_eq_some_iff.1 h
  have hbelow := Uniform.lt_of_accept64?_eq_some sampler.total_pos fits hk
  rw [sampler.total_eq_weightSum] at hbelow
  have hi := locate_lt hbelow
  rw [hlocate] at hi
  have he := List.getElem?_eq_getElem hi
  refine ⟨sampler.entries[i], he, ?_⟩
  intro hzero
  have hstretch := (locate_eq_iff he k).1 hlocate
  rw [hzero, Set.mem_Ico, UInt32.toNat_zero] at hstretch
  omega

omit fits

/-- A draw gives the entry that the first accepted word selects. -/
theorem draw?_fst {σ : Type} [WordSource σ] (s : σ) :
    (sampler.draw? s).1 =
      ((Uniform.words64 attempts s).findSome? sampler.select?).bind (sampler.entries[·]?) := by
  simp only [draw?, Uniform.below64?_fst]
  induction Uniform.words64 attempts s with
  | nil => rfl
  | cons word words ih =>
    simp only [List.findSome?_cons, select?]
    cases Uniform.accept64? sampler.total word with
    | none => exact ih
    | some k => rfl

/-! ## Proportion -/

/-- Of all 64-bit words, an entry is selected by its weight times as many as there are whole totals
in `2 ^ 64`, and the remaining words are rejected. -/
theorem draws_in_proportion {σ : Type} [WordSource σ] (table : Table)
    (small : table.size ≤ 2 ^ 32) :
    ((∃ sampler, ofTable table = .ok sampler) ↔
      table.entries ≠ [] ∧ ∃ e ∈ table.entries, e.weight ≠ 0) ∧
    ∀ sampler, ofTable table = .ok sampler →
      let total := (table.entries.map fun e => e.weight.toNat).sum
      let selecting (i : ℕ) := {word | sampler.select? word = some i}
      sampler.total = total ∧
      (∃ sum, table.total64? = some sum ∧ sum.toNat = total) ∧
      (∀ i e, table.entries[i]? = some e →
        (selecting i).ncard = e.weight.toNat * (2 ^ 64 / total)) ∧
      {word | sampler.select? word = none}.ncard = 2 ^ 64 % total ∧
      (∀ word i, sampler.select? word = some i →
        ∃ e, table.entries[i]? = some e ∧ e.weight ≠ 0) ∧
      (∀ i j e f, table.entries[i]? = some e → table.entries[j]? = some f →
        (selecting i).ncard * f.weight.toNat = (selecting j).ncard * e.weight.toNat) ∧
      ∀ s : σ, (sampler.draw? s).1 =
        ((Uniform.words64 attempts s).findSome? sampler.select?).bind (table.entries[·]?) := by
  constructor
  · rw [exists_ofTable_eq_ok_iff, weightSum_pos_iff]
    constructor
    · rintro ⟨e, he, hweight⟩
      exact ⟨List.ne_nil_of_mem he, e, he, hweight⟩
    · rintro ⟨-, hexists⟩
      exact hexists
  · intro sampler hsampler total selecting
    have hentries := entries_of_ofTable_eq_ok hsampler
    have htotal : sampler.total = weightSum table.entries := by
      rw [sampler.total_eq_weightSum, hentries]
    have hlt := weightSum_lt_of_small small
    have fits : sampler.total ≤ UInt64.size := by omega
    have hcount : ∀ i e, table.entries[i]? = some e →
        (selecting i).ncard = e.weight.toNat * (2 ^ 64 / total) := by
      intro i e he
      rw [← hentries] at he
      have h := sampler.ncard_select?_eq_some fits he
      rw [htotal] at h
      exact h
    refine ⟨htotal, ?_, hcount, ?_, ?_, ?_, ?_⟩
    · have hfits : (0 : UInt64).toNat + weightSum table.entries < UInt64.size := by
        rw [UInt64.toNat_zero]
        omega
      obtain ⟨sum, hsum, heq⟩ := addWeights?_eq_some hfits
      rw [UInt64.toNat_zero, Nat.zero_add] at heq
      exact ⟨sum, hsum, heq⟩
    · have h := sampler.ncard_select?_eq_none fits
      rw [htotal] at h
      exact h
    · intro word i hi
      rw [← hentries]
      exact sampler.exists_of_select?_eq_some fits hi
    · intro i j e f he hf
      rw [hcount i e he, hcount j f hf]
      ring
    · intro s
      rw [← hentries]
      exact sampler.draw?_fst s

/-- Of the words for the weights nine, zero and one, six are rejected and none selects the second
entry. -/
theorem draws_in_proportion_nine_zero_one :
    let table : Table := ⟨[⟨⟨"a", "b"⟩, 9⟩, ⟨⟨"a", "c"⟩, 0⟩, ⟨⟨"b", "c"⟩, 1⟩]⟩
    table.size ≤ 2 ^ 32 ∧ ∃ sampler, ofTable table = .ok sampler ∧ sampler.total = 10 ∧
      {word | sampler.select? word = some 0}.ncard = 9 * (2 ^ 64 / 10) ∧
      {word | sampler.select? word = some 1}.ncard = 0 ∧
      {word | sampler.select? word = some 2}.ncard = 2 ^ 64 / 10 ∧
      {word | sampler.select? word = none}.ncard = 6 := by
  intro table
  have small : table.size ≤ 2 ^ 32 := by decide
  have h := draws_in_proportion (σ := WordStream) table small
  obtain ⟨sampler, hsampler⟩ := h.1.2 ⟨by decide, _, List.mem_cons_self, by decide⟩
  obtain ⟨htotal, -, hcount, hnone, -⟩ := h.2 sampler hsampler
  refine ⟨small, sampler, hsampler, htotal, hcount 0 _ rfl, ?_, ?_, ?_⟩
  · exact (hcount 1 _ rfl).trans (Nat.zero_mul _)
  · exact (hcount 2 _ rfl).trans (Nat.one_mul _)
  · exact hnone.trans (by decide)

end Sampler

end SqlReplay.Weights
