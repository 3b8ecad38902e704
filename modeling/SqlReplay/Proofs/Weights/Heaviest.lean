import Mathlib.Data.List.Sort
import SqlReplay.Weights.Table

/-!
# The heaviest entries of a table

Entries stand at places of the table, and of two places the one with the greater weight goes first,
of equal weights the one that comes first in the table (`Outranks`).  No two places tie in this
order, so the places of the heaviest entries, and their order, are determined
(`Table.Selects.unique`).  Sorting entries by weight alone gives this order as it leaves equal
weights where they are (`Table.pairwise_ranked`).
-/

namespace SqlReplay.Weights

/-- Whether an entry at a place goes before another: it weighs more, or as much and stands before
it. -/
def Outranks (x y : Entry × ℕ) : Prop :=
  y.1.weight < x.1.weight ∨ y.1.weight = x.1.weight ∧ x.2 < y.2

theorem Outranks.asymm {x y : Entry × ℕ} (h : Outranks x y) : ¬ Outranks y x := by
  unfold Outranks at *
  rw [UInt32.lt_iff_toNat_lt, ← UInt32.toNat_inj] at *
  omega

theorem outranks_iff {x y : Entry × ℕ} :
    Outranks x y ↔ y.1.weight ≤ x.1.weight ∧ (y.1.weight = x.1.weight → x.2 < y.2) := by
  unfold Outranks
  rw [UInt32.lt_iff_toNat_lt, UInt32.le_iff_toNat_le, ← UInt32.toNat_inj]
  omega

namespace Table

/-- Whether these entries, told with their places, are the `n` heaviest of a table. -/
structure Selects (table : Table) (n : ℕ) (chosen : List (Entry × ℕ)) : Prop where
  placed : ∀ x ∈ chosen, table.entries[x.2]? = some x.1
  distinct : (chosen.map Prod.snd).Nodup
  size : chosen.length = min n table.size
  falling : chosen.Pairwise fun x y => y.1.weight ≤ x.1.weight
  /-- Equal weights are in table order. -/
  stable : chosen.Pairwise fun x y => y.1.weight = x.1.weight → x.2 < y.2
  /-- What is left out weighs no more than what is chosen. -/
  above : ∀ x ∈ chosen, ∀ i e, table.entries[i]? = some e → i ∉ chosen.map Prod.snd →
    e.weight ≤ x.1.weight
  /-- What is left out of equal weights comes after what is chosen. -/
  earlier : ∀ x ∈ chosen, ∀ i e, table.entries[i]? = some e → i ∉ chosen.map Prod.snd →
    e.weight = x.1.weight → x.2 < i

namespace Selects

variable {table : Table} {n : ℕ} {chosen other : List (Entry × ℕ)}

theorem pairwise (h : table.Selects n chosen) : chosen.Pairwise Outranks :=
  (h.falling.and h.stable).imp outranks_iff.2

theorem outranks (h : table.Selects n chosen) {x y : Entry × ℕ} (hx : x ∈ chosen)
    (hy : table.entries[y.2]? = some y.1) (hnot : y ∉ chosen) : Outranks x y := by
  -- Places tell entries, so the place of an entry that is left out is left out.
  have hplace : y.2 ∉ chosen.map Prod.snd := by
    intro hmem
    obtain ⟨z, hz, hplace⟩ := List.mem_map.1 hmem
    have hentry := h.placed z hz
    rw [hplace, hy] at hentry
    have hzy : z = y := Prod.ext (Option.some.inj hentry).symm hplace
    exact hnot (hzy ▸ hz)
  exact outranks_iff.2 ⟨h.above x hx y.2 y.1 hy hplace, h.earlier x hx y.2 y.1 hy hplace⟩

theorem nodup (h : table.Selects n chosen) : chosen.Nodup := List.Nodup.of_map Prod.snd h.distinct

/-- If one selection had an entry that another lacks, the other would have one that the first lacks,
and each of the two would go before the other. -/
theorem subset (h : table.Selects n chosen) (hother : table.Selects n other) : chosen ⊆ other := by
  intro x hx
  by_contra hnot
  have hmissing : ¬ other ⊆ chosen := by
    intro hsub
    have hlength : chosen.length ≤ other.length := by rw [h.size, hother.size]
    have hperm := (List.subperm_of_subset hother.nodup hsub).perm_of_length_le hlength
    exact hnot (hperm.mem_iff.2 hx)
  obtain ⟨y, hy, hynot⟩ : ∃ y ∈ other, y ∉ chosen := by
    simpa only [List.subset_def, not_forall, exists_prop] using hmissing
  exact (h.outranks hx (hother.placed y hy) hynot).asymm (hother.outranks hy (h.placed x hx) hnot)

/-- There is one selection only. -/
theorem unique (h : table.Selects n chosen) (hother : table.Selects n other) : chosen = other := by
  have hperm : chosen.Perm other :=
    (List.perm_ext_iff_of_nodup h.nodup hother.nodup).2 fun x =>
      ⟨fun hx => h.subset hother hx, fun hx => hother.subset h hx⟩
  exact hperm.eq_of_pairwise (fun x y _ _ hxy hyx => absurd hyx hxy.asymm) h.pairwise
    hother.pairwise

end Selects

/-! ## Ranking by sorting -/

/-- The entries with their places, as sorting by weight leaves them. -/
def ranked (table : Table) : List (Entry × ℕ) :=
  table.entries.zipIdx.mergeSort (List.zipIdxLE fun e f => f.weight ≤ e.weight)

section Ranked

variable (table : Table)

theorem heaviest_eq (n : ℕ) : table.heaviest n = (table.ranked.take n).map Prod.fst := by
  rw [heaviest, ← List.mergeSort_zipIdx, List.map_take, ranked]

theorem perm_ranked : table.ranked.Perm table.entries.zipIdx := List.mergeSort_perm _ _

theorem mem_ranked {x : Entry × ℕ} : x ∈ table.ranked ↔ table.entries[x.2]? = some x.1 := by
  rw [table.perm_ranked.mem_iff, List.mem_zipIdx_iff_getElem?]

theorem length_ranked : table.ranked.length = table.size := by
  rw [table.perm_ranked.length_eq, List.length_zipIdx, size]

theorem nodup_places : (table.ranked.map Prod.snd).Nodup := by
  rw [(table.perm_ranked.map Prod.snd).nodup_iff, List.zipIdx_map_snd]
  exact List.nodup_range'

theorem pairwise_ranked : table.ranked.Pairwise Outranks := by
  have htrans (a b c : Entry) (hab : decide (b.weight ≤ a.weight) = true)
      (hbc : decide (c.weight ≤ b.weight) = true) : decide (c.weight ≤ a.weight) = true := by
    rw [decide_eq_true_eq] at *
    exact UInt32.le_trans hbc hab
  have htotal (a b : Entry) :
      (decide (b.weight ≤ a.weight) || decide (a.weight ≤ b.weight)) = true := by
    rw [Bool.or_eq_true, decide_eq_true_eq, decide_eq_true_eq]
    exact UInt32.le_total b.weight a.weight
  have hsorted : table.ranked.Pairwise fun x y =>
      List.zipIdxLE (fun e f => decide (f.weight ≤ e.weight)) x y = true :=
    List.pairwise_mergeSort (List.zipIdxLE_trans htrans) (List.zipIdxLE_total htotal) _
  have hplaces : table.ranked.Pairwise fun x y => x.2 ≠ y.2 :=
    List.pairwise_map.1 table.nodup_places
  refine (hsorted.and hplaces).imp ?_
  rintro x y ⟨hle, hne⟩
  rw [List.zipIdxLE] at hle
  split_ifs at hle with hxy hyx
  · rw [decide_eq_true_eq] at hxy hyx hle
    exact Or.inr ⟨UInt32.le_antisymm hxy hyx, Nat.lt_of_le_of_ne hle hne⟩
  · rw [decide_eq_true_eq] at hyx
    exact Or.inl (UInt32.not_le.1 hyx)

/-- What the first of the ranked entries leave out is ranked after them. -/
theorem outranks_of_mem_take {n i : ℕ} {x : Entry × ℕ} {e : Entry} (hx : x ∈ table.ranked.take n)
    (he : table.entries[i]? = some e) (hi : i ∉ (table.ranked.take n).map Prod.snd) :
    Outranks x (e, i) := by
  have hmem : (e, i) ∈ table.ranked := table.mem_ranked.2 he
  have hranked := table.pairwise_ranked
  rw [← List.take_append_drop n table.ranked] at hmem hranked
  have hdrop : (e, i) ∈ table.ranked.drop n :=
    (List.mem_append.1 hmem).resolve_left fun htake => hi (List.mem_map_of_mem htake)
  exact (List.pairwise_append.1 hranked).2.2 x hx (e, i) hdrop

/-- The first of the ranked entries are the heaviest. -/
theorem selects_take (n : ℕ) : table.Selects n (table.ranked.take n) := by
  have hranked : (table.ranked.take n).Pairwise Outranks :=
    table.pairwise_ranked.sublist (List.take_sublist n table.ranked)
  constructor
  case placed =>
    intro x hx
    exact table.mem_ranked.1 (List.mem_of_mem_take hx)
  case distinct =>
    rw [List.map_take]
    exact table.nodup_places.sublist (List.take_sublist n _)
  case size => rw [List.length_take, table.length_ranked]
  case falling => exact hranked.imp fun h => (outranks_iff.1 h).1
  case stable => exact hranked.imp fun h => (outranks_iff.1 h).2
  case above =>
    intro x hx i e he hi
    exact (outranks_iff.1 (table.outranks_of_mem_take hx he hi)).1
  case earlier =>
    intro x hx i e he hi
    exact (outranks_iff.1 (table.outranks_of_mem_take hx he hi)).2

end Ranked

/-- The heaviest entries of a table are those of a selection of so many, in its order, and there is
one such selection only, whatever weights repeat.  Fewer are the first of more, and as many as there
are make up the whole table. -/
theorem heaviest_selects (table : Table) :
    (∀ n kept, kept = table.heaviest n ↔
      ∃ chosen, table.Selects n chosen ∧ kept = chosen.map Prod.fst) ∧
    (∀ m n, m ≤ n → table.heaviest m <+: table.heaviest n) ∧
    (table.heaviest table.size).Perm table.entries := by
  refine ⟨?_, ?_, ?_⟩
  · intro n kept
    rw [heaviest_eq]
    constructor
    · rintro rfl
      exact ⟨_, table.selects_take n, rfl⟩
    · rintro ⟨chosen, hchosen, rfl⟩
      rw [hchosen.unique (table.selects_take n)]
  · intro m n hle
    rw [heaviest, heaviest]
    exact List.take_prefix_take_left hle
  · have hall := table.entries.mergeSort_perm fun e f => decide (f.weight ≤ e.weight)
    rw [heaviest, size, ← hall.length_eq, List.take_length]
    exact hall

/-- A table in which two entries tie. -/
def tied : Table := ⟨[⟨⟨"a", "b"⟩, 5⟩, ⟨⟨"a", "c"⟩, 9⟩, ⟨⟨"b", "c"⟩, 5⟩]⟩

/-- Of two entries that tie for the last place the first is kept. -/
theorem heaviest_selects_tied : tied.heaviest 2 = [⟨⟨"a", "c"⟩, 9⟩, ⟨⟨"a", "b"⟩, 5⟩] := by
  have hselects : tied.Selects 2 [(⟨⟨"a", "c"⟩, 9⟩, 1), (⟨⟨"a", "b"⟩, 5⟩, 0)] := by
    have hleft : ∀ i e, tied.entries[i]? = some e → i ∉ [1, 0] →
        i = 2 ∧ e = ⟨⟨"b", "c"⟩, 5⟩ := by
      intro i e he hi
      have hlt : i < 3 := (List.getElem?_eq_some_iff.1 he).1
      obtain rfl : i = 2 := by
        simp only [List.mem_cons, List.not_mem_nil] at hi
        omega
      exact ⟨rfl, (Option.some.inj he).symm⟩
    refine ⟨by decide, by decide, rfl, by decide, by decide, ?_, ?_⟩
    · intro x hx i e he hi
      obtain ⟨rfl, rfl⟩ := hleft i e he hi
      revert x
      decide
    · intro x hx i e he hi
      obtain ⟨rfl, rfl⟩ := hleft i e he hi
      revert x
      decide
  exact (((heaviest_selects tied).1 2 _).2 ⟨_, hselects, rfl⟩).symm

end Table

end SqlReplay.Weights
