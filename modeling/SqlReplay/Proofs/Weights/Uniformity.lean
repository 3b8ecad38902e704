import SqlReplay.Proofs.Random.Scaling
import SqlReplay.Weights.Table

/-!
# Weights are uniform to within one

A weight is the high half of the product of two joined words with the size of the range, counted
from the lower bound (`Range.draw_eq`).  The second word is only taken where the first does not
decide that half alone, and the result never leaves the range (`Range.draw_mem`).
-/

namespace SqlReplay.Weights

namespace Range

/-! ## Bounds -/

variable (range : Range)

theorem min_toNat_le : range.min.toNat ≤ range.max.toNat :=
  UInt32.le_iff_toNat_le.1 range.min_le_max

theorem size_pos : 0 < range.size := Nat.succ_pos _

/-- The bounds and the number of weights between them fit, since no weight is zero. -/
theorem min_add_size : range.min.toNat + range.size = range.max.toNat + 1 := by
  have h := range.min_toNat_le
  unfold size
  omega

theorem size_lt : range.size < UInt32.size := by
  have hmin : 1 ≤ range.min.toNat := UInt32.le_iff_toNat_le.1 range.one_le_min
  have hmax := range.max.toNat_lt
  have h := range.min_add_size
  simp only [UInt32.size] at hmax ⊢
  omega

theorem eq_of_ofBounds_eq_ok {min max : UInt32} {range : Range}
    (h : ofBounds min max = .ok range) : range.min = min ∧ range.max = max := by
  unfold ofBounds at h
  split at h
  · split at h
    · cases h
      exact ⟨rfl, rfl⟩
    · cases h
  · cases h

/-! ## Draws -/

variable {σ : Type} [WordSource σ] (s : σ)

/-- A drawn weight, as a number, and what a draw leaves of the source. -/
theorem draw_eq :
    let x := WordSource.next s
    let y := WordSource.next x.2
    (range.draw s).1.toNat = range.min.toNat + Uniform.scaled range.size (x.1, y.1) ∧
      (range.draw s).2 =
        if x.1.toNat * range.size % UInt32.size > UInt32.size - range.size then y.2 else x.2 := by
  intro x y
  have hlt := Uniform.scaled_lt range.size_pos (x.1, y.1)
  have hsize := range.size_lt
  have hsum := range.min_add_size
  have hmax := range.max.toNat_lt
  have hbelow := Uniform.below32_eq (Nat.le_of_lt hsize) s
  simp only [draw, hbelow]
  refine ⟨?_, rfl⟩
  rw [UInt32.toNat_add, UInt32.toNat_ofNat_of_lt' (lt_trans hlt hsize)]
  apply Nat.mod_eq_of_lt
  omega

theorem draw_mem : range.min ≤ (range.draw s).1 ∧ (range.draw s).1 ≤ range.max := by
  have hdraw := (range.draw_eq s).1
  have hlt := Uniform.scaled_lt range.size_pos
    ((WordSource.next s).1, (WordSource.next (WordSource.next s).2).1)
  have hsum := range.min_add_size
  rw [UInt32.le_iff_toNat_le, UInt32.le_iff_toNat_le]
  omega

/-- Weights come from two words, the second of which is taken only where it can matter.  They stay
within the range, and of all pairs of words, each weight is given by the same number to within
one. -/
theorem draw_uniform {min max : UInt32} {range : Range} (accepted : ofBounds min max = .ok range) :
    let r := max.toNat - min.toNat + 1
    (∀ s : σ,
      let x := WordSource.next s
      let y := WordSource.next x.2
      (range.draw s).1.toNat = min.toNat + (x.1.toNat * 2 ^ 32 + y.1.toNat) * r / 2 ^ 64 ∧
      (range.draw s).2 = (if x.1.toNat * r % 2 ^ 32 > 2 ^ 32 - r then y.2 else x.2) ∧
      min ≤ (range.draw s).1 ∧ (range.draw s).1 ≤ max) ∧
    ∀ state : UInt32 × UInt32 → σ,
      (∀ p, (WordSource.next (state p)).1 = p.1 ∧
        (WordSource.next (WordSource.next (state p)).2).1 = p.2) →
      ∀ weight, min ≤ weight → weight ≤ max →
        {p | (range.draw (state p)).1 = weight}.ncard = 2 ^ 64 / r ∨
          {p | (range.draw (state p)).1 = weight}.ncard = 2 ^ 64 ⌈/⌉ r := by
  obtain ⟨rfl, rfl⟩ := eq_of_ofBounds_eq_ok accepted
  intro r
  refine ⟨fun s => ⟨(range.draw_eq s).1, (range.draw_eq s).2, range.draw_mem s⟩, ?_⟩
  intro state hstate weight hmin hmax
  rw [UInt32.le_iff_toNat_le] at hmin hmax
  have hsum := range.min_add_size
  have hdrawn : ∀ p, (range.draw (state p)).1 = weight ↔
      Uniform.scaled range.size p = weight.toNat - range.min.toNat := by
    intro p
    have hp := (range.draw_eq (state p)).1
    rw [(hstate p).1, (hstate p).2, Prod.mk.eta] at hp
    rw [← UInt32.toNat_inj, hp]
    omega
  simp only [hdrawn]
  exact Uniform.ncard_scaled_eq (by omega)

/-- The widest range is drawn from up to its upper bound. -/
theorem draw_uniform_widest :
    let range : Range := ⟨1, 4294967295, by decide, by decide⟩
    let ones := {p : UInt32 × UInt32 |
      (range.draw (⟨fun i => if i = 0 then p.1 else p.2⟩ : WordStream)).1 = 1}
    ofBounds 1 4294967295 = .ok range ∧
      (range.draw (⟨fun _ => 4294967295⟩ : WordStream)).1 = 4294967295 ∧
      (ones.ncard = 2 ^ 32 + 1 ∨ ones.ncard = 2 ^ 32 + 2) := by
  intro range ones
  have accepted : ofBounds 1 4294967295 = .ok range := rfl
  have h := draw_uniform (σ := WordStream) accepted
  refine ⟨accepted, ?_, ?_⟩
  · rw [← UInt32.toNat_inj]
    exact (h.1 ⟨fun _ => 4294967295⟩).1
  · exact h.2 (fun p => ⟨fun i => if i = 0 then p.1 else p.2⟩) (fun p => ⟨rfl, rfl⟩) 1
      (by decide) (by decide)

end Range

end SqlReplay.Weights
