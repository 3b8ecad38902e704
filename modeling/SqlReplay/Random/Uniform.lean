import SqlReplay.Random.WordSource

/-!
# Uniform draws

A draw below `r` scales a random word by `r` and keeps the high half of the product. For 32-bit
words the next word decides whether the low half carries, but only when the low half is so large
that it could. For 64-bit words a draw with too small a low half is rejected and repeated.
-/

namespace SqlReplay.Uniform

variable {σ : Type} [WordSource σ]

/-- The high and low half of a product of two 32-bit numbers. -/
def split32 (product : Nat) : Nat × Nat := (product / UInt32.size, product % UInt32.size)

/-- Draws a number below `r`, where `r ≤ 2 ^ 32`. -/
def below32 (r : Nat) (s : σ) : Nat × σ :=
  let (x, s) := WordSource.next s
  let (high, low) := split32 (x.toNat * r)
  if low > UInt32.size - r then
    let (y, s) := WordSource.next s
    let carry := (split32 (y.toNat * r)).1
    (if low + carry ≥ UInt32.size then high + 1 else high, s)
  else (high, s)

/-- The number below `total` that a 64-bit word stands for, unless the word is rejected. -/
def accept64? (total : Nat) (word : UInt64) : Option Nat :=
  let product := word.toNat * total
  if product % UInt64.size ≥ (UInt64.size - total) % total then some (product / UInt64.size)
  else none

/-- Draws 64-bit words until one is accepted, at most `attempts` times. -/
def below64? (total : Nat) : Nat → σ → Option Nat × σ
  | 0, s => (none, s)
  | attempts + 1, s =>
    let (word, s) := WordSource.next64 s
    match accept64? total word with
    | some n => (some n, s)
    | none => below64? total attempts s

end SqlReplay.Uniform
