import SqlReplay.Random.WordSource

/-!
# The ChaCha12 generator

Block `i` of the key stream is the ChaCha permutation of twelve rounds applied to the constants,
the key, the 64-bit block number `i` and a nonce of zero, added to that input word by word. The
generator hands out the words of block 0, then those of block 1, and so on.
-/

namespace SqlReplay.ChaCha

/-- Rotation to the left by less than 32 bits. -/
def rotateLeft (w : UInt32) (k : UInt32) : UInt32 := (w <<< k) ||| (w >>> (32 - k))

/-- Four words side by side. -/
structure Row where
  w0 : UInt32
  w1 : UInt32
  w2 : UInt32
  w3 : UInt32
deriving DecidableEq

namespace Row

/-- Combines two rows lane by lane. -/
def zip (f : UInt32 → UInt32 → UInt32) (x y : Row) : Row :=
  ⟨f x.w0 y.w0, f x.w1 y.w1, f x.w2 y.w2, f x.w3 y.w3⟩

instance : Add Row := ⟨zip (· + ·)⟩

instance : XorOp Row := ⟨zip (· ^^^ ·)⟩

/-- Rotates every lane to the left. -/
def rotate (x : Row) (k : UInt32) : Row :=
  ⟨rotateLeft x.w0 k, rotateLeft x.w1 k, rotateLeft x.w2 k, rotateLeft x.w3 k⟩

/-- Moves every lane one place to the left, the first to the end. -/
def turn (x : Row) : Row := ⟨x.w1, x.w2, x.w3, x.w0⟩

/-- The lanes in order. -/
def words (x : Row) : List UInt32 := [x.w0, x.w1, x.w2, x.w3]

end Row

/-- The sixteen words of a block as four rows. -/
structure Block where
  a : Row
  b : Row
  c : Row
  d : Row
deriving DecidableEq

namespace Block

/-- The quarter round on all four columns at once. -/
def columns (s : Block) : Block :=
  let a := s.a + s.b
  let d := (s.d ^^^ a).rotate 16
  let c := s.c + d
  let b := (s.b ^^^ c).rotate 12
  let a := a + b
  let d := (d ^^^ a).rotate 8
  let c := c + d
  let b := (b ^^^ c).rotate 7
  ⟨a, b, c, d⟩

/-- Turns the rows so that diagonals stand in columns. -/
def slant (s : Block) : Block := ⟨s.a, s.b.turn, s.c.turn.turn, s.d.turn.turn.turn⟩

/-- Undoes `slant`. -/
def unslant (s : Block) : Block := ⟨s.a, s.b.turn.turn.turn, s.c.turn.turn, s.d.turn⟩

/-- A column round and a diagonal round. -/
def doubleRound (s : Block) : Block := s.columns.slant.columns.unslant

/-- Applies `n` double rounds. -/
def rounds : Nat → Block → Block
  | 0, s => s
  | n + 1, s => rounds n s.doubleRound

/-- The words in order. -/
def words (s : Block) : List UInt32 := s.a.words ++ s.b.words ++ s.c.words ++ s.d.words

end Block

/-- A key of 256 bits. -/
structure Key where
  high : Row
  low : Row
deriving DecidableEq

/-- The block before the rounds. -/
def Key.input (key : Key) (number : UInt64) : Block :=
  ⟨⟨0x61707865, 0x3320646e, 0x79622d32, 0x6b206574⟩, key.high, key.low,
    ⟨number.toUInt32, (number >>> 32).toUInt32, 0, 0⟩⟩

/-- One block of the key stream. -/
def Key.block (key : Key) (number : UInt64) : Block :=
  let input := key.input number
  let mixed := input.rounds 6
  ⟨mixed.a + input.a, mixed.b + input.b, mixed.c + input.c, mixed.d + input.d⟩

/-- A place in the key stream. -/
structure Generator where
  key : Key
  /-- The block to compute next. -/
  number : UInt64
  /-- The words of the current block that have not been handed out. -/
  pending : List UInt32

namespace Generator

/-- The next word of the key stream. -/
def next (g : Generator) : UInt32 × Generator :=
  match g.pending with
  | w :: ws => (w, { g with pending := ws })
  | [] =>
    let block := g.key.block g.number
    (block.a.w0, ⟨g.key, g.number + 1, block.words.tail⟩)

instance : WordSource Generator := ⟨next⟩

/-- The step of the linear congruence that spreads a seed over a key. -/
def spreadState (s : UInt64) : UInt64 := s * 6364136223846793005 + 11634580027462260723

/-- The word that a state of the congruence yields: its high bits, mixed and rotated. -/
def spreadWord (s : UInt64) : UInt32 :=
  let x := (((s >>> 18) ^^^ s) >>> 27).toUInt32
  let k := (s >>> 59).toUInt32
  if k = 0 then x else (x >>> k) ||| (x <<< (32 - k))

/-- The first `n` words spread from a state. -/
def spread : Nat → UInt64 → List UInt32
  | 0, _ => []
  | n + 1, s => spreadWord (spreadState s) :: spread n (spreadState s)

/-- The generator for a seed. -/
def ofSeed (seed : UInt64) : Generator :=
  let word (i : Nat) : UInt32 := (spread 8 seed).getD i 0
  ⟨⟨⟨word 0, word 1, word 2, word 3⟩, ⟨word 4, word 5, word 6, word 7⟩⟩, 0, []⟩

end Generator

end SqlReplay.ChaCha
