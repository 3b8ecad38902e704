/-!
# Sources of random words

Everything random is drawn from a source of 32-bit words. A 64-bit word is two of them, the low
half first, so what a draw consumes is always a stretch of one word sequence.
-/

namespace SqlReplay

/-- A state from which 32-bit words can be taken one after the other. -/
class WordSource (σ : Type) where
  /-- The next word and the state after it. -/
  next : σ → UInt32 × σ

namespace WordSource

variable {σ : Type} [WordSource σ]

/-- The next two words as one of 64 bits, the low half first. -/
def next64 (s : σ) : UInt64 × σ :=
  let (low, s) := next s
  let (high, s) := next s
  (low.toUInt64 + high.toUInt64 <<< 32, s)

end WordSource

/-- A word sequence read from one end. -/
structure WordStream where
  /-- The words still to come. -/
  word : Nat → UInt32

instance : WordSource WordStream where
  next s := (s.word 0, ⟨fun i => s.word (i + 1)⟩)

end SqlReplay
