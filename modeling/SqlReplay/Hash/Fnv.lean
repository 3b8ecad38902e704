import SqlReplay.Text.Hexadecimal

/-!
# The 64-bit hash FNV-1a

Each byte is put into the state by exclusive or, and the state is then multiplied by an odd prime
with wrap-around, so every step can be undone.
-/

namespace SqlReplay.Fnv

/-- The state before the first byte. -/
def offsetBasis : UInt64 := 0xcbf29ce484222325

/-- The multiplier. -/
def prime : UInt64 := 0x100000001b3

/-- The state after one more byte. -/
def step (h : UInt64) (b : UInt8) : UInt64 := (h ^^^ b.toUInt64) * prime

/-- The hash of bytes. -/
def hash (bs : List UInt8) : UInt64 := bs.foldl step offsetBasis

/-- The hash of bytes as sixteen hexadecimal digits. -/
def hashText (bs : List UInt8) : String := String.ofList (Text.hexDigits 16 (hash bs).toNat)

end SqlReplay.Fnv
