import Mathlib.Data.Nat.Choose.Basic
import Mathlib.Tactic.Ring
import SqlReplay.Proofs.Weights.Uniformity

/-!
# A generated table pairs the whole catalog

The pairs of a catalog stand row by row: first those of the first name with each later one, then
those of the second, and so on (`getElem?_pairsOf`).  As the names of a catalog are distinct, no two
pairs name the same options (`pairwise_pairsOf`), so looking up two options finds the one entry that
names them (`Table.generate_pairs_catalog`).
-/

namespace SqlReplay.Weights

/-! ## Pairs that name the same options -/

namespace Pair

theorem same_iff (p q : Pair) :
    p.same q = true ↔
      p.first = q.first ∧ p.second = q.second ∨ p.first = q.second ∧ p.second = q.first := by
  simp [same]

theorem same_refl (p : Pair) : p.same p = true := (same_iff p p).2 (Or.inl ⟨rfl, rfl⟩)

theorem same_comm (p q : Pair) : p.same q = q.same p := by
  rw [Bool.eq_iff_iff, same_iff, same_iff]
  constructor
  · rintro (⟨h₁, h₂⟩ | ⟨h₁, h₂⟩)
    · exact Or.inl ⟨h₁.symm, h₂.symm⟩
    · exact Or.inr ⟨h₂.symm, h₁.symm⟩
  · rintro (⟨h₁, h₂⟩ | ⟨h₁, h₂⟩)
    · exact Or.inl ⟨h₁.symm, h₂.symm⟩
    · exact Or.inr ⟨h₂.symm, h₁.symm⟩

theorem same_swap (p : Pair) (x y : String) : p.same ⟨x, y⟩ = p.same ⟨y, x⟩ := by
  rw [Bool.eq_iff_iff, same_iff, same_iff]
  exact Or.comm

theorem same_trans {p q r : Pair} (hpq : p.same q = true) (hqr : q.same r = true) :
    p.same r = true := by
  rw [same_iff] at hpq hqr ⊢
  rcases hpq with ⟨h₁, h₂⟩ | ⟨h₁, h₂⟩
  · rw [h₁, h₂]
    exact hqr
  · rw [h₁, h₂]
    rcases hqr with ⟨h₃, h₄⟩ | ⟨h₃, h₄⟩
    · exact Or.inr ⟨h₄, h₃⟩
    · exact Or.inl ⟨h₄, h₃⟩

end Pair

/-- In a list without two pairs that name the same options, such pairs have one index. -/
theorem eq_of_same {pairs : List Pair} (h : pairs.Pairwise fun p q => p.same q = false)
    {k m : ℕ} {p q : Pair} (hp : pairs[k]? = some p) (hq : pairs[m]? = some q)
    (hsame : p.same q = true) : k = m := by
  obtain ⟨hk, rfl⟩ := List.getElem?_eq_some_iff.1 hp
  obtain ⟨hm, rfl⟩ := List.getElem?_eq_some_iff.1 hq
  rw [List.pairwise_iff_getElem] at h
  rcases lt_trichotomy k m with hlt | heq | hgt
  · rw [h k m hk hm hlt] at hsame
    cases hsame
  · exact heq
  · rw [Pair.same_comm, h m k hm hk hgt] at hsame
    cases hsame

/-! ## The pairs of a list of names -/

theorem length_pairsOf (names : List String) :
    (pairsOf names).length = names.length * (names.length - 1) / 2 := by
  induction names with
  | nil => rfl
  | cons name rest ih =>
    rw [pairsOf, List.length_append, List.length_map, ih, List.length_cons, Nat.triangle_succ]
    omega

/-- The row of the next index begins where one more row of names has ended. -/
theorem rowStart_succ {n i : ℕ} (hi : i < n) :
    (i + 1) * (2 * (n + 1) - (i + 1) - 1) / 2 = n + i * (2 * n - i - 1) / 2 := by
  obtain ⟨d, rfl⟩ : ∃ d, n = i + 1 + d := ⟨n - (i + 1), by omega⟩
  have hlast : 2 * (i + 1 + d + 1) - (i + 1) - 1 = i + 2 + 2 * d := by omega
  have hthis : 2 * (i + 1 + d) - i - 1 = i + 1 + 2 * d := by omega
  have hproduct : (i + 1) * (i + 2 + 2 * d) = i * (i + 1 + 2 * d) + 2 * (i + 1 + d) := by ring
  rw [hlast, hthis, hproduct, Nat.add_mul_div_left _ _ (by decide), Nat.add_comm]

theorem getElem?_pairsOf {names : List String} {i j : ℕ} {x y : String} (hij : i < j)
    (hx : names[i]? = some x) (hy : names[j]? = some y) :
    (pairsOf names)[i * (2 * names.length - i - 1) / 2 + (j - i - 1)]? = some ⟨x, y⟩ := by
  -- Row by row: the first index is zero in the first row and one less in the rows after it.
  induction names generalizing i j with
  | nil => cases hx
  | cons name rest ih =>
    obtain ⟨j, rfl⟩ : ∃ j', j = j' + 1 := ⟨j - 1, by omega⟩
    rw [List.getElem?_cons_succ] at hy
    have hj := (List.getElem?_eq_some_iff.1 hy).1
    cases i with
    | zero =>
      obtain rfl : name = x := Option.some.inj hx
      have hindex : 0 * (2 * (name :: rest).length - 0 - 1) / 2 + (j + 1 - 0 - 1) = j := by
        rw [Nat.zero_mul, Nat.zero_div]
        omega
      rw [hindex, pairsOf, List.getElem?_append_left (by rwa [List.length_map]), List.getElem?_map,
        hy]
      rfl
    | succ i =>
      rw [List.getElem?_cons_succ] at hx
      have hrow := rowStart_succ (n := rest.length) (i := i) (by omega)
      have hindex : (i + 1) * (2 * (name :: rest).length - (i + 1) - 1) / 2 +
          (j + 1 - (i + 1) - 1) =
          rest.length + (i * (2 * rest.length - i - 1) / 2 + (j - i - 1)) := by
        rw [List.length_cons, hrow]
        omega
      rw [hindex, pairsOf, List.getElem?_append_right (by rw [List.length_map]; omega),
        List.length_map, Nat.add_sub_cancel_left]
      exact ih (by omega) hx hy

theorem mem_of_mem_pairsOf {names : List String} {p : Pair} (hp : p ∈ pairsOf names) :
    p.first ∈ names ∧ p.second ∈ names := by
  induction names with
  | nil => cases hp
  | cons name rest ih =>
    rcases List.mem_append.1 hp with h | h
    · obtain ⟨second, hsecond, rfl⟩ := List.mem_map.1 h
      exact ⟨List.mem_cons_self, List.mem_cons_of_mem name hsecond⟩
    · exact ⟨List.mem_cons_of_mem name (ih h).1, List.mem_cons_of_mem name (ih h).2⟩

section Distinct

variable {names : List String} (distinct : names.Nodup)
include distinct

theorem ne_of_mem_pairsOf {p : Pair} (hp : p ∈ pairsOf names) : p.first ≠ p.second := by
  induction names with
  | nil => cases hp
  | cons name rest ih =>
    obtain ⟨hname, hrest⟩ := List.nodup_cons.1 distinct
    rcases List.mem_append.1 hp with h | h
    · obtain ⟨second, hsecond, rfl⟩ := List.mem_map.1 h
      rintro (rfl : name = second)
      exact hname hsecond
    · exact ih hrest h

/-- No two pairs name the same options, in whichever order. -/
theorem pairwise_pairsOf : (pairsOf names).Pairwise fun p q => p.same q = false := by
  induction names with
  | nil => exact List.Pairwise.nil
  | cons name rest ih =>
    obtain ⟨hname, hrest⟩ := List.nodup_cons.1 distinct
    rw [pairsOf, List.pairwise_append]
    refine ⟨?_, ih hrest, ?_⟩
    · rw [List.pairwise_map]
      apply List.Pairwise.imp_of_mem _ hrest
      intro x y hx hy hxy
      rw [← Bool.not_eq_true, Pair.same_iff]
      rintro (⟨-, h⟩ | ⟨(rfl : name = y), -⟩)
      · exact hxy h
      · exact hname hy
    · intro p hp q hq
      obtain ⟨second, -, rfl⟩ := List.mem_map.1 hp
      obtain ⟨hfirst, hsecond⟩ := mem_of_mem_pairsOf hq
      rw [← Bool.not_eq_true, Pair.same_iff]
      rintro (⟨(rfl : name = q.first), -⟩ | ⟨(rfl : name = q.second), -⟩)
      · exact hname hfirst
      · exact hname hsecond

/-- Two options are named by a pair if and only if they are different names of the list. -/
theorem exists_same_iff (x y : String) :
    (∃ p ∈ pairsOf names, p.same ⟨x, y⟩ = true) ↔ x ∈ names ∧ y ∈ names ∧ x ≠ y := by
  constructor
  · rintro ⟨p, hp, hsame⟩
    obtain ⟨hfirst, hsecond⟩ := mem_of_mem_pairsOf hp
    have hne := ne_of_mem_pairsOf distinct hp
    rcases (Pair.same_iff p _).1 hsame with ⟨h₁, h₂⟩ | ⟨h₁, h₂⟩
    · rw [h₁] at hfirst hne
      rw [h₂] at hsecond hne
      exact ⟨hfirst, hsecond, hne⟩
    · rw [h₁] at hfirst hne
      rw [h₂] at hsecond hne
      exact ⟨hsecond, hfirst, hne.symm⟩
  · rintro ⟨hx, hy, hne⟩
    obtain ⟨i, hi⟩ := List.mem_iff_getElem?.1 hx
    obtain ⟨j, hj⟩ := List.mem_iff_getElem?.1 hy
    rcases lt_trichotomy i j with hlt | heq | hgt
    · exact ⟨⟨x, y⟩, List.mem_of_getElem? (getElem?_pairsOf hlt hi hj), Pair.same_refl _⟩
    · rw [heq, hj] at hi
      exact absurd (Option.some.inj hi).symm hne
    · refine ⟨⟨y, x⟩, List.mem_of_getElem? (getElem?_pairsOf hgt hj hi), ?_⟩
      rw [Pair.same_swap]
      exact Pair.same_refl _

end Distinct

/-! ## Weighing -/

section Weighing

variable {σ : Type} [WordSource σ] (range : Range) (pairs : List Pair) (s : σ)

theorem pairs_weigh : (weigh range pairs s).1.map Entry.pair = pairs := by
  induction pairs generalizing s with
  | nil => rfl
  | cons pair pairs ih =>
    simp only [weigh, List.map_cons, ih]

theorem contains_of_mem_weigh {e : Entry} (he : e ∈ (weigh range pairs s).1) :
    range.min ≤ e.weight ∧ e.weight ≤ range.max := by
  induction pairs generalizing s with
  | nil => cases he
  | cons pair pairs ih =>
    simp only [weigh] at he
    rcases List.mem_cons.1 he with rfl | he
    · exact range.draw_mem s
    · exact ih (range.draw s).2 he

end Weighing

/-! ## Looking up options -/

namespace Table

theorem weightOf?_comm (table : Table) (x y : String) :
    table.weightOf? x y = table.weightOf? y x := by
  simp only [weightOf?, Pair.same_swap _ x y]

theorem weightOf?_isSome_iff (table : Table) (x y : String) :
    (table.weightOf? x y).isSome = true ↔ ∃ p ∈ table.pairs, p.same ⟨x, y⟩ = true := by
  simp [weightOf?, pairs]

theorem getElem?_pairs (table : Table) (k : ℕ) :
    table.pairs[k]? = table.entries[k]?.map Entry.pair := by
  rw [pairs, List.getElem?_map]

/-- If no two entries name the same options, the entry whose weight is found is the only one that
names the two options. -/
theorem exists_of_weightOf?_eq_some {table : Table}
    (h : table.pairs.Pairwise fun p q => p.same q = false) {x y : String} {weight : UInt32}
    (hweight : table.weightOf? x y = some weight) :
    ∃ (k : ℕ) (e : Entry), table.entries[k]? = some e ∧ e.pair.same ⟨x, y⟩ = true ∧
      e.weight = weight ∧ ∀ (m : ℕ) (f : Entry), table.entries[m]? = some f →
        f.pair.same ⟨x, y⟩ = true → m = k := by
  obtain ⟨e, hfind, hweight⟩ := Option.map_eq_some_iff.1 hweight
  obtain ⟨k, hk⟩ := List.mem_iff_getElem?.1 (List.mem_of_find?_eq_some hfind)
  have hsame := List.find?_some hfind
  refine ⟨k, e, hk, hsame, hweight, ?_⟩
  intro m f hm hfsame
  have hke : table.pairs[k]? = some e.pair := by rw [getElem?_pairs, hk, Option.map_some]
  have hmf : table.pairs[m]? = some f.pair := by rw [getElem?_pairs, hm, Option.map_some]
  rw [Pair.same_comm] at hsame
  exact eq_of_same h hmf hke (Pair.same_trans hfsame hsame)

end Table

theorem Catalog.names_of_ofList_eq_ok {names : List String} {catalog : Catalog}
    (h : ofList names = .ok catalog) : catalog.names = names := by
  unfold ofList at h
  split at h
  · cases h
  · cases h
    rfl

namespace Table

/-! ## Generated tables -/

section Generated

variable {σ : Type} [WordSource σ] (catalog : Catalog) (range : Range) (s : σ)

theorem pairs_generate : (generate catalog range s).1.pairs = pairsOf catalog.names :=
  pairs_weigh range (pairsOf catalog.names) s

theorem size_generate : (generate catalog range s).1.size = catalog.pairCount := by
  have hlength := congrArg List.length (pairs_generate catalog range s)
  rw [pairs, List.length_map, length_pairsOf] at hlength
  exact hlength

theorem pairwise_generate :
    (generate catalog range s).1.pairs.Pairwise fun p q => p.same q = false := by
  rw [pairs_generate]
  exact pairwise_pairsOf catalog.distinct

theorem getElem?_generate_iff {i j : ℕ} {x y : String} (hij : i < j)
    (hx : catalog.names[i]? = some x) (hy : catalog.names[j]? = some y) (k : ℕ) :
    (generate catalog range s).1.entries[k]?.map Entry.pair = some ⟨x, y⟩ ↔
      k = i * (2 * catalog.names.length - i - 1) / 2 + (j - i - 1) := by
  have hplace := getElem?_pairsOf hij hx hy
  rw [← getElem?_pairs, pairs_generate]
  constructor
  · intro hk
    exact eq_of_same (pairwise_pairsOf catalog.distinct) hk hplace (Pair.same_refl _)
  · rintro rfl
    exact hplace

theorem ne_of_mem_generate {e : Entry} (he : e ∈ (generate catalog range s).1.entries) :
    e.pair.first ≠ e.pair.second := by
  have hmem : e.pair ∈ (generate catalog range s).1.pairs := List.mem_map_of_mem he
  rw [pairs_generate] at hmem
  exact ne_of_mem_pairsOf catalog.distinct hmem

theorem weightOf?_generate_isSome_iff (x y : String) :
    ((generate catalog range s).1.weightOf? x y).isSome = true ↔
      x ∈ catalog.names ∧ y ∈ catalog.names ∧ x ≠ y := by
  rw [weightOf?_isSome_iff, pairs_generate]
  exact exists_same_iff catalog.distinct x y

end Generated

/-- A generated table holds every pair of the catalog once, at a place given by the two indices,
with a weight in the range, and looking up two options finds the one entry that names them. -/
theorem generate_pairs_catalog {σ : Type} [WordSource σ] {names : List String} {catalog : Catalog}
    (acceptedNames : Catalog.ofList names = .ok catalog) {min max : UInt32} {range : Range}
    (acceptedRange : Range.ofBounds min max = .ok range) (s : σ) :
    let table := (generate catalog range s).1
    let n := names.length
    (table.size = catalog.pairCount ∧ catalog.pairCount = n * (n - 1) / 2) ∧
    (∀ i j x y, i < j → names[i]? = some x → names[j]? = some y → ∀ k,
      table.entries[k]?.map Entry.pair = some ⟨x, y⟩ ↔
        k = i * (2 * n - i - 1) / 2 + (j - i - 1)) ∧
    (∀ e ∈ table.entries, e.pair.first ≠ e.pair.second ∧ min ≤ e.weight ∧ e.weight ≤ max) ∧
    table.entries.Pairwise (fun e f => e.pair.same f.pair = false) ∧
    ∀ x y, ((table.weightOf? x y).isSome = true ↔ x ∈ names ∧ y ∈ names ∧ x ≠ y) ∧
      table.weightOf? x y = table.weightOf? y x ∧
      ∀ weight, table.weightOf? x y = some weight →
        ∃ (k : ℕ) (e : Entry), table.entries[k]? = some e ∧ e.pair.same ⟨x, y⟩ = true ∧
          e.weight = weight ∧ ∀ (m : ℕ) (f : Entry), table.entries[m]? = some f →
            f.pair.same ⟨x, y⟩ = true → m = k := by
  obtain rfl := Catalog.names_of_ofList_eq_ok acceptedNames
  obtain ⟨rfl, rfl⟩ := Range.eq_of_ofBounds_eq_ok acceptedRange
  intro table n
  refine ⟨⟨size_generate catalog range s, rfl⟩, ?_, ?_, ?_, ?_⟩
  · intro i j x y hij hx hy k
    exact getElem?_generate_iff catalog range s hij hx hy k
  · intro e he
    refine ⟨ne_of_mem_generate catalog range s he, ?_⟩
    exact contains_of_mem_weigh range (pairsOf catalog.names) s he
  · exact List.pairwise_map.1 (pairwise_generate catalog range s)
  · intro x y
    refine ⟨weightOf?_generate_isSome_iff catalog range s x y, weightOf?_comm table x y, ?_⟩
    intro weight hweight
    exact exists_of_weightOf?_eq_some (pairwise_generate catalog range s) hweight

/-- The order of three names decides where their pairs stand, and not how they are looked up. -/
theorem generate_pairs_catalog_three :
    ∃ catalog range, Catalog.ofList ["zeta", "alpha", "mid"] = .ok catalog ∧
      Range.ofBounds 1 100 = .ok range ∧
      let table := (generate catalog range (⟨fun i => UInt32.ofNat i⟩ : WordStream)).1
      table.size = 3 ∧ table.entries[2]?.map Entry.pair = some ⟨"alpha", "mid"⟩ ∧
        (table.weightOf? "mid" "zeta").isSome = true ∧
        ¬ (table.weightOf? "mid" "mid").isSome = true := by
  have acceptedNames : Catalog.ofList ["zeta", "alpha", "mid"] =
      .ok ⟨["zeta", "alpha", "mid"], by decide, by decide⟩ := rfl
  have acceptedRange : Range.ofBounds 1 100 = .ok ⟨1, 100, by decide, by decide⟩ := rfl
  have h := generate_pairs_catalog acceptedNames acceptedRange
    (⟨fun i => UInt32.ofNat i⟩ : WordStream)
  obtain ⟨⟨hsize, hcount⟩, hplace, -, -, hweight⟩ := h
  refine ⟨_, _, acceptedNames, acceptedRange, hsize.trans hcount, ?_, ?_, ?_⟩
  · exact (hplace 1 2 "alpha" "mid" (by decide) rfl rfl 2).2 rfl
  · exact (hweight "mid" "zeta").1.2 (by decide)
  · intro hsome
    exact ((hweight "mid" "mid").1.1 hsome).2.2 rfl

end Table

end SqlReplay.Weights
