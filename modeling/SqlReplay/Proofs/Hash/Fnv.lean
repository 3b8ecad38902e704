import Mathlib.Algebra.Group.Nat.Defs
import Mathlib.Logic.ExistsUnique
import Mathlib.Tactic.ByContra
import SqlReplay.Hash.Fnv
import SqlReplay.Proofs.Text.Hexadecimal

/-!
# What the hash tells apart

The multiplier is odd, so it has an inverse among the words of 64 bits, and a step of the hash can
be undone, for the state as for the byte (`eq_of_step_eq`, `eq_of_step_eq_step`).  Texts that part
at one byte therefore part in their states there, and never meet again while the bytes that follow
are the same (`hash_ne_of_differAtOne`).  The text of a hash tells the hash
(`hexNumber?_hashText`), and that is the number that FNV-1a is defined to be (`toNat_hash`).
-/

namespace SqlReplay

/-- Whether two lists of one length differ at one place exactly. -/
def DifferAtOne {α : Type} (xs ys : List α) : Prop :=
  xs.length = ys.length ∧ ∃! i : ℕ, xs[i]? ≠ ys[i]?

/-- Lists that differ at one place are the same before it and after it. -/
theorem DifferAtOne.split {α : Type} {xs ys : List α} (h : DifferAtOne xs ys) :
    ∃ front x y back, xs = front ++ x :: back ∧ ys = front ++ y :: back ∧ x ≠ y := by
  obtain ⟨hlength, i, hi, hunique⟩ := h
  induction xs generalizing ys i with
  | nil =>
    cases ys with
    | nil => exact absurd rfl hi
    | cons y ys => cases hlength
  | cons x xs ih =>
    cases ys with
    | nil => cases hlength
    | cons y ys =>
      have htail : xs.length = ys.length := Nat.succ.inj hlength
      cases i with
      | zero =>
        have hne : x ≠ y := fun e => hi (congrArg some e)
        have hsame : xs = ys := by
          apply List.ext_getElem?
          intro j
          by_contra hj
          exact Nat.succ_ne_zero j (hunique (j + 1) hj)
        exact ⟨[], x, y, xs, rfl, by rw [hsame, List.nil_append], hne⟩
      | succ i =>
        have heq : x = y := by
          by_contra hne
          have hzero := hunique 0 fun e => hne (Option.some.inj e)
          omega
        obtain ⟨front, x', y', back, rfl, rfl, hne⟩ :=
          ih htail i hi fun j hj => Nat.succ.inj (hunique (j + 1) hj)
        exact ⟨x :: front, x', y', back, rfl, by rw [heq, List.cons_append], hne⟩

theorem differAtOne_append {α : Type} (front : List α) {x y : α} (h : x ≠ y) (back : List α) :
    DifferAtOne (front ++ x :: back) (front ++ y :: back) := by
  refine ⟨by simp, front.length, ?_, ?_⟩
  · simpa using h
  · intro i hi
    by_contra hne
    apply hi
    rcases Nat.lt_or_gt_of_ne hne with hlt | hgt
    · rw [List.getElem?_append_left hlt, List.getElem?_append_left hlt]
    · obtain ⟨k, hk⟩ : ∃ k, i - front.length = k + 1 := ⟨i - front.length - 1, by omega⟩
      rw [List.getElem?_append_right (by omega), List.getElem?_append_right (by omega), hk,
        List.getElem?_cons_succ, List.getElem?_cons_succ]

namespace Fnv

/-! ## The number -/

/-- The 64-bit FNV-1a value of bytes, in natural numbers: from the offset basis, each byte is put in
by exclusive or, and the outcome is multiplied by the prime modulo `2 ^ 64`. -/
def value (bs : List UInt8) : ℕ :=
  bs.foldl (fun h b => (h ^^^ b.toNat) * 1099511628211 % 2 ^ 64) 14695981039346656037

theorem toNat_step (h : UInt64) (b : UInt8) :
    (step h b).toNat = (h.toNat ^^^ b.toNat) * 1099511628211 % 2 ^ 64 := by
  rw [step, UInt64.toNat_mul, UInt64.toNat_xor, UInt8.toNat_toUInt64]
  rfl

theorem toNat_hash (bs : List UInt8) : (hash bs).toNat = value bs := by
  have hfold (h : UInt64) : (bs.foldl step h).toNat =
      bs.foldl (fun h b => (h ^^^ b.toNat) * 1099511628211 % 2 ^ 64) h.toNat := by
    induction bs generalizing h with
    | nil => rfl
    | cons b bs ih => rw [List.foldl_cons, ih, toNat_step, List.foldl_cons]
  exact hfold offsetBasis

/-! ## Undoing a step -/

/-- The inverse of the multiplier. -/
def inverse : UInt64 := 0xce965057aff6957b

theorem prime_mul_inverse : prime * inverse = 1 := by decide

theorem eq_of_mul_prime_eq {x y : UInt64} (h : x * prime = y * prime) : x = y := by
  have hundo (z : UInt64) : z * prime * inverse = z := by
    rw [UInt64.mul_assoc, prime_mul_inverse, UInt64.mul_one]
  rw [← hundo x, h, hundo]

/-- The state before a byte can be told from the state after it. -/
theorem eq_of_step_eq {h h' : UInt64} {b : UInt8} (e : step h b = step h' b) : h = h' :=
  (UInt64.xor_left_inj _).1 (eq_of_mul_prime_eq e)

/-- The byte can be told from the states before and after it. -/
theorem eq_of_step_eq_step {h : UInt64} {b b' : UInt8} (e : step h b = step h b') : b = b' :=
  UInt8.toUInt64_inj.1 ((UInt64.xor_right_inj _).1 (eq_of_mul_prime_eq e))

/-- States that differ still do so after the same bytes. -/
theorem eq_of_foldl_step_eq {h h' : UInt64} {bs : List UInt8}
    (e : bs.foldl step h = bs.foldl step h') : h = h' := by
  induction bs generalizing h h' with
  | nil => exact e
  | cons b bs ih => exact eq_of_step_eq (ih e)

theorem hash_ne_of_differAtOne {bs bs' : List UInt8} (h : DifferAtOne bs bs') :
    hash bs ≠ hash bs' := by
  obtain ⟨front, b, b', back, rfl, rfl, hne⟩ := h.split
  intro e
  rw [hash, hash, List.foldl_append, List.foldl_append, List.foldl_cons, List.foldl_cons] at e
  exact hne (eq_of_step_eq_step (eq_of_foldl_step_eq e))

/-! ## The text -/

theorem length_hashText (bs : List UInt8) : (hashText bs).length = 16 := by
  rw [hashText, String.length_ofList, Text.length_hexDigits]

theorem mem_hashText {bs : List UInt8} {c : Char} (h : c ∈ (hashText bs).toList) :
    c ∈ "0123456789abcdef".toList := by
  rw [hashText, String.toList_ofList] at h
  obtain ⟨m, hm, rfl⟩ := Text.exists_of_mem_hexDigits h
  have hall : ∀ m < 16, Text.hexDigit m ∈ "0123456789abcdef".toList := by decide
  exact hall m hm

/-- Sixteen digits hold any word of 64 bits. -/
theorem hexNumber?_hashText (bs : List UInt8) :
    Toml.hexNumber? (hashText bs).toList = some (value bs) := by
  have hlt : (hash bs).toNat < 16 ^ 16 := (hash bs).toNat_lt
  have hread (n : ℕ) : Toml.hexNumber? (Text.hexDigits 16 n) = some (n % 16 ^ 16) := by
    rw [← Toml.hexNumber?_map_hexDigits (f := id) (fun m => Text.hexValue?_hexDigit), List.map_id]
  rw [hashText, String.toList_ofList, hread, Nat.mod_eq_of_lt hlt, toNat_hash]

theorem hash_eq_of_hashText_eq {bs bs' : List UInt8} (h : hashText bs = hashText bs') :
    hash bs = hash bs' := by
  have hread := hexNumber?_hashText bs
  rw [h, hexNumber?_hashText] at hread
  rw [← UInt64.toNat_inj, toNat_hash, toNat_hash]
  exact (Option.some.inj hread).symm

end Fnv

end SqlReplay
