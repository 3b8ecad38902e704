import Mathlib.Algebra.Order.Floor.Div
import Mathlib.Data.FinEnum
import Mathlib.Data.Set.Card
import Mathlib.Order.Interval.Finset.Nat
import Mathlib.Tactic.Ring
import SqlReplay.Random.Uniform

/-!
# How many words give a draw

A draw scales a word by `t` and keeps the high half of the product, so the words that give one
result are those whose products fall into one stretch of numbers.  A stretch whose length is a
multiple of `t` holds the same number of products wherever it begins, hence a draw with rejection is
exactly uniform (`ncard_accept64?_eq_some`, `ncard_accept64?_eq_none`).  Of any other stretch the
number varies by one, hence a draw without rejection is uniform to within one
(`ncard_scaled_eq`).
-/

namespace SqlReplay.Uniform

/-! ## Products in a stretch -/

section Stretch

variable {t : ℕ} (ht : 0 < t)
include ht

/-- The numbers whose products with `t` fall into a stretch are consecutive. -/
theorem mul_mem_Ico_iff (a b n : ℕ) :
    n * t ∈ Set.Ico a b ↔ n ∈ Set.Ico (a ⌈/⌉ t) (b ⌈/⌉ t) := by
  have hb : b ⌈/⌉ t ≤ n ↔ b ≤ t * n := ceilDiv_le_iff_le_mul ht
  rw [Set.mem_Ico, Set.mem_Ico, ceilDiv_le_iff_le_mul ht, Nat.mul_comm n t]
  omega

theorem ceilDiv_add_mul (a q : ℕ) : (a + t * q) ⌈/⌉ t = a ⌈/⌉ t + q := by
  rw [Nat.ceilDiv_eq_add_pred_div, Nat.ceilDiv_eq_add_pred_div, ← Nat.add_mul_div_left _ _ ht]
  congr 1
  omega

theorem ceilDiv_add_lt {s : ℕ} (hs : s < t) (a : ℕ) :
    a ⌈/⌉ t ≤ (a + s) ⌈/⌉ t ∧ (a + s) ⌈/⌉ t ≤ a ⌈/⌉ t + 1 := by
  constructor
  · rw [ceilDiv_le_iff_le_mul ht]
    have h : a + s ≤ t * ((a + s) ⌈/⌉ t) := (ceilDiv_le_iff_le_mul ht).1 le_rfl
    omega
  · rw [← ceilDiv_add_mul ht a 1, ceilDiv_le_iff_le_mul ht]
    have h : a + t * 1 ≤ t * ((a + t * 1) ⌈/⌉ t) := (ceilDiv_le_iff_le_mul ht).1 le_rfl
    omega

/-- A stretch of length `b` holds the quotient of `b` by `t`, rounded down or up, many products. -/
theorem ceilDiv_add_sub (a b : ℕ) :
    (a + b) ⌈/⌉ t - a ⌈/⌉ t = b / t ∨ (a + b) ⌈/⌉ t - a ⌈/⌉ t = b ⌈/⌉ t := by
  have hb : b % t + t * (b / t) = b := Nat.mod_add_div b t
  have hab : (a + b) ⌈/⌉ t = (a + b % t) ⌈/⌉ t + b / t := by
    rw [← ceilDiv_add_mul ht]
    congr 1
    omega
  have hceil : b ⌈/⌉ t = b % t ⌈/⌉ t + b / t := by
    rw [← ceilDiv_add_mul ht, hb]
  have hmod : b % t < t := Nat.mod_lt b ht
  rcases Nat.eq_zero_or_pos (b % t) with hzero | hpos
  · left
    rw [hab, hzero, Nat.add_zero, Nat.add_sub_cancel_left]
  · have hone : b % t ⌈/⌉ t = 1 := by
      rw [Nat.ceilDiv_eq_add_pred_div]
      apply Nat.div_eq_of_lt_le
      · omega
      · omega
    have hstep := ceilDiv_add_lt ht hmod a
    omega

end Stretch

/-! ## Counting -/

theorem ncard_Ico (a b : ℕ) : (Set.Ico a b).ncard = b - a := by
  rw [← Finset.coe_Ico, Set.ncard_coe_finset, Nat.card_Ico]

/-- Of things numbered from zero to `N`, as many have a number in an interval as it is long. -/
theorem ncard_numbered {α : Type} {f : α → ℕ} {N : ℕ} (hinj : Function.Injective f)
    (hsurj : ∀ n < N, ∃ x, f x = n) {a b : ℕ} (hb : b ≤ N) :
    {x | f x ∈ Set.Ico a b}.ncard = b - a := by
  have hrange : Set.Ico a b ⊆ Set.range f := by
    intro n hn
    exact hsurj n (lt_of_lt_of_le hn.2 hb)
  rw [← ncard_Ico a b]
  exact Set.ncard_preimage_of_injective_subset_range hinj hrange

theorem ncard_words {a b : ℕ} (hb : b ≤ UInt64.size) :
    {word : UInt64 | word.toNat ∈ Set.Ico a b}.ncard = b - a := by
  apply ncard_numbered (fun x y h => UInt64.toNat_inj.1 h) _ hb
  intro n hn
  exact ⟨UInt64.ofNat n, UInt64.toNat_ofNat_of_lt hn⟩

/-- The number that two words make, the first above the second. -/
def joined (p : UInt32 × UInt32) : ℕ := p.1.toNat * UInt32.size + p.2.toNat

theorem joined_lt (p : UInt32 × UInt32) : joined p < UInt64.size := by
  have h₁ := p.1.toNat_lt
  have h₂ := p.2.toNat_lt
  simp only [joined, UInt32.size, UInt64.size] at h₁ h₂ ⊢
  omega

theorem ncard_pairs {a b : ℕ} (hb : b ≤ UInt64.size) :
    {p | joined p ∈ Set.Ico a b}.ncard = b - a := by
  refine ncard_numbered (fun p q h => ?_) (fun n hn => ?_) hb
  · have h₁ := p.2.toNat_lt
    have h₂ := q.2.toNat_lt
    simp only [joined, UInt32.size] at h h₁ h₂
    apply Prod.ext
    · rw [← UInt32.toNat_inj]
      omega
    · rw [← UInt32.toNat_inj]
      omega
  · refine ⟨(UInt32.ofNat (n / UInt32.size), UInt32.ofNat (n % UInt32.size)), ?_⟩
    have hhigh : n / UInt32.size < UInt32.size := by
      simp only [UInt32.size, UInt64.size] at hn ⊢
      omega
    have hlow : n % UInt32.size < UInt32.size := Nat.mod_lt n (by decide)
    rw [joined, UInt32.toNat_ofNat_of_lt' hhigh, UInt32.toNat_ofNat_of_lt' hlow,
      Nat.div_add_mod']

/-- If each of some results is given `c` times, one of them is given `c` times their number. -/
theorem ncard_results {α : Type} [Finite α] {f : α → Option ℕ} {K : Finset ℕ} {c : ℕ}
    (h : ∀ k ∈ K, {x | f x = some k}.ncard = c) :
    {x | ∃ k ∈ K, f x = some k}.ncard = K.card * c := by
  induction K using Finset.induction_on with
  | empty => simp
  | insert k K hk ih =>
    have hsplit : {x | ∃ j ∈ insert k K, f x = some j} =
        {x | f x = some k} ∪ {x | ∃ j ∈ K, f x = some j} := by
      ext x
      simp
    have hdisjoint : Disjoint {x | f x = some k} {x | ∃ j ∈ K, f x = some j} := by
      rw [Set.disjoint_left]
      rintro x hx ⟨j, hj, hxj⟩
      rw [Set.mem_ofPred_eq, hxj, Option.some.injEq] at hx
      exact hk (hx ▸ hj)
    have hfirst := h k (Finset.mem_insert_self k K)
    have hrest := ih fun j hj => h j (Finset.mem_insert_of_mem hj)
    rw [hsplit, Set.ncard_union_eq hdisjoint, hfirst, hrest, Finset.card_insert_of_notMem hk]
    ring

/-! ## Draws with rejection -/

section Rejection

variable {total : ℕ} (hpos : 0 < total) (hle : total ≤ UInt64.size)
include hpos hle

theorem accept64?_eq_some_iff (word : UInt64) (k : ℕ) :
    accept64? total word = some k ↔ word.toNat * total ∈
      Set.Ico (k * UInt64.size + UInt64.size % total) ((k + 1) * UInt64.size) := by
  have hthreshold : (UInt64.size - total) % total = UInt64.size % total := by
    rw [← Nat.mod_eq_sub_mod hle]
  have hsize : 0 < UInt64.size := by decide
  have hmod := Nat.mod_lt UInt64.size hpos
  have hdiv := Nat.div_add_mod' (word.toNat * total) UInt64.size
  have hlow := Nat.mod_lt (word.toNat * total) hsize
  simp only [accept64?, hthreshold, Set.mem_Ico]
  -- What is left is linear in the quotient and the remainder of the product.
  generalize word.toNat * total = product at hdiv hlow ⊢
  generalize UInt64.size = size at *
  by_cases hk : product / size = k
  · rw [hk] at hdiv
    by_cases haccepted : size % total ≤ product % size
    · rw [if_pos haccepted, hk, Nat.add_mul]
      constructor
      · intro _
        omega
      · intro _
        rfl
    · rw [if_neg haccepted]
      constructor
      · intro h
        cases h
      · intro h
        omega
  · constructor
    · intro h
      split at h
      · exact absurd (Option.some.inj h) hk
      · cases h
    · rintro ⟨hlower, hupper⟩
      exact absurd (Nat.div_eq_of_lt_le (by omega) hupper) hk

/-- Every number below the total is given by equally many words. -/
theorem ncard_accept64?_eq_some {k : ℕ} (hk : k < total) :
    {word | accept64? total word = some k}.ncard = UInt64.size / total := by
  -- What the threshold cuts off leaves a stretch whose length is a multiple of the total.
  have hlength : (k + 1) * UInt64.size =
      k * UInt64.size + UInt64.size % total + total * (UInt64.size / total) := by
    have h := Nat.mod_add_div UInt64.size total
    rw [Nat.add_mul]
    omega
  have hend : ((k + 1) * UInt64.size) ⌈/⌉ total ≤ UInt64.size := by
    rw [ceilDiv_le_iff_le_mul hpos]
    exact Nat.mul_le_mul_right UInt64.size hk
  simp only [accept64?_eq_some_iff hpos hle, mul_mem_Ico_iff hpos]
  rw [ncard_words hend, hlength, ceilDiv_add_mul hpos, Nat.add_sub_cancel_left]

theorem lt_of_accept64?_eq_some {word : UInt64} {k : ℕ} (h : accept64? total word = some k) :
    k < total := by
  have hlower := ((accept64?_eq_some_iff hpos hle word k).1 h).1
  have hword : word.toNat * total < UInt64.size * total :=
    Nat.mul_lt_mul_of_pos_right word.toNat_lt hpos
  have hproduct : k * UInt64.size < total * UInt64.size := by
    rw [Nat.mul_comm total]
    omega
  exact Nat.lt_of_mul_lt_mul_right hproduct

theorem ncard_accept64?_eq_none :
    {word | accept64? total word = none}.ncard = UInt64.size % total := by
  have haccepted : {word | ∃ k ∈ Finset.range total, accept64? total word = some k}.ncard =
      (Finset.range total).card * (UInt64.size / total) := by
    apply ncard_results
    intro k hk
    exact ncard_accept64?_eq_some hpos hle (Finset.mem_range.1 hk)
  have hrest : {word | accept64? total word = none} =
      {word | ∃ k ∈ Finset.range total, accept64? total word = some k}ᶜ := by
    ext word
    rw [Set.mem_compl_iff, Set.mem_ofPred_eq, Set.mem_ofPred_eq]
    constructor
    · rintro hnone ⟨k, -, hk⟩
      rw [hnone] at hk
      cases hk
    · intro hnot
      cases hword : accept64? total word with
      | none => rfl
      | some k =>
        have hk := lt_of_accept64?_eq_some hpos hle hword
        exact absurd ⟨k, Finset.mem_range.2 hk, hword⟩ hnot
  have hall : Nat.card UInt64 = UInt64.size := by
    rw [Nat.card_eq_fintype_card, ← FinEnum.card_eq_fintypeCard, FinEnum.card_UInt64]
    rfl
  have hsum := Set.ncard_add_ncard_compl
    {word | ∃ k ∈ Finset.range total, accept64? total word = some k}
  rw [haccepted, hall, Finset.card_range, ← hrest] at hsum
  have hsize := Nat.div_add_mod UInt64.size total
  omega

end Rejection

/-- The next `n` words of 64 bits. -/
def words64 {σ : Type} [WordSource σ] : ℕ → σ → List UInt64
  | 0, _ => []
  | n + 1, s => (WordSource.next64 s).1 :: words64 n (WordSource.next64 s).2

/-- A draw takes words up to the first that is not rejected. -/
theorem below64?_fst {σ : Type} [WordSource σ] (total attempts : ℕ) (s : σ) :
    (below64? total attempts s).1 = (words64 attempts s).findSome? (accept64? total) := by
  induction attempts generalizing s with
  | zero => rfl
  | succ attempts ih =>
    simp only [below64?, words64, List.findSome?_cons]
    cases h : accept64? total (WordSource.next64 s).1 with
    | none => exact ih (WordSource.next64 s).2
    | some n => rfl

/-! ## Draws with a second word -/

/-- The number below `r` that two words stand for. -/
def scaled (r : ℕ) (p : UInt32 × UInt32) : ℕ := joined p * r / UInt64.size

theorem scaled_lt {r : ℕ} (hpos : 0 < r) (p : UInt32 × UInt32) : scaled r p < r := by
  apply Nat.div_lt_of_lt_mul
  exact Nat.mul_lt_mul_of_pos_right (joined_lt p) hpos

section Carry

variable {σ : Type} [WordSource σ] {r : ℕ} (hr : r ≤ UInt32.size)
include hr

theorem scaled_eq (x y : UInt32) :
    scaled r (x, y) =
      x.toNat * r / UInt32.size +
        if x.toNat * r % UInt32.size + y.toNat * r / UInt32.size ≥ UInt32.size then 1 else 0 := by
  have hsize : UInt64.size = UInt32.size * UInt32.size := rfl
  have hpos : 0 < UInt32.size := by decide
  have hlow := Nat.mod_lt (x.toNat * r) hpos
  have hcarry : y.toNat * r / UInt32.size < UInt32.size := by
    apply Nat.div_lt_of_lt_mul
    exact Nat.mul_lt_mul_of_lt_of_le y.toNat_lt hr hpos
  have hproduct : joined (x, y) * r = y.toNat * r + x.toNat * r * UInt32.size := by
    simp only [joined]
    ring
  have hsum : x.toNat * r + y.toNat * r / UInt32.size =
      x.toNat * r % UInt32.size + y.toNat * r / UInt32.size +
        x.toNat * r / UInt32.size * UInt32.size := by
    have h := Nat.mod_add_div' (x.toNat * r) UInt32.size
    omega
  rw [scaled, hsize, ← Nat.div_div_eq_div_mul, hproduct, Nat.add_mul_div_right _ _ hpos,
    Nat.add_comm, hsum, Nat.add_mul_div_right _ _ hpos, Nat.add_comm]
  congr 1
  split
  · apply Nat.div_eq_of_lt_le
    · omega
    · omega
  · apply Nat.div_eq_of_lt
    omega

/-- A draw takes the second word only if the first leaves open whether it carries. -/
theorem below32_eq (s : σ) :
    let x := WordSource.next s
    let y := WordSource.next x.2
    below32 r s = (scaled r (x.1, y.1),
      if x.1.toNat * r % UInt32.size > UInt32.size - r then y.2 else x.2) := by
  rcases hx : WordSource.next s with ⟨x, s₁⟩
  rcases hy : WordSource.next s₁ with ⟨y, s₂⟩
  simp only [below32, split32, hx, hy, scaled_eq hr]
  by_cases hopen : x.toNat * r % UInt32.size > UInt32.size - r
  · rw [if_pos hopen, if_pos hopen]
    split
    · rfl
    · rfl
  · -- The second product has a high half below `r`, too little to carry over such a low half.
    have hcarry : y.toNat * r / UInt32.size < r ∨ r = 0 := by
      rcases Nat.eq_zero_or_pos r with hzero | hpos
      · exact Or.inr hzero
      · left
        apply Nat.div_lt_of_lt_mul
        exact Nat.mul_lt_mul_of_pos_right y.toNat_lt hpos
    have hnone : ¬ x.toNat * r % UInt32.size + y.toNat * r / UInt32.size ≥ UInt32.size := by
      rcases hcarry with hcarry | rfl
      · omega
      · simp [UInt32.size]
    rw [if_neg hopen, if_neg hopen, if_neg hnone, Nat.add_zero]

end Carry

/-- Every number below `r` is given by equally many pairs of words, to within one. -/
theorem ncard_scaled_eq {r k : ℕ} (hk : k < r) :
    {p | scaled r p = k}.ncard = UInt64.size / r ∨
      {p | scaled r p = k}.ncard = UInt64.size ⌈/⌉ r := by
  have hpos : 0 < r := by omega
  have hsize : 0 < UInt64.size := by decide
  have hstretch : ∀ p, scaled r p = k ↔
      joined p * r ∈ Set.Ico (k * UInt64.size) ((k + 1) * UInt64.size) := by
    intro p
    rw [scaled, Nat.div_eq_iff hsize, Set.mem_Ico, Nat.add_mul]
    omega
  have hend : ((k + 1) * UInt64.size) ⌈/⌉ r ≤ UInt64.size := by
    rw [ceilDiv_le_iff_le_mul hpos]
    exact Nat.mul_le_mul_right UInt64.size hk
  simp only [hstretch, mul_mem_Ico_iff hpos]
  rw [ncard_pairs hend, Nat.add_mul, Nat.one_mul]
  exact ceilDiv_add_sub hpos _ _

end SqlReplay.Uniform
