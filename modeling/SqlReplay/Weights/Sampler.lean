import SqlReplay.Random.Uniform
import SqlReplay.Weights.Table

/-!
# Sampling in proportion to weight

A draw takes a uniform number below the total weight and picks the entry whose stretch of the
cumulative weights holds it, so an entry of weight zero is never picked.
-/

namespace SqlReplay.Weights

/-- The entries of a table from which one can be drawn, and their total weight. -/
structure Sampler where
  entries : List Entry
  total : Nat
  total_eq : total = (entries.map fun e => e.weight.toNat).foldr (· + ·) 0
  total_pos : 0 < total

namespace Sampler

/-- Why nothing can be drawn from a table. -/
inductive Fault
  | empty
  | weightless
deriving DecidableEq

/-- The fault in words. -/
def Fault.message : Fault → String
  | empty => "cannot sample from an empty weight table"
  | weightless => "weight table has zero total weight"

/-- The sampler of a table. -/
def ofTable (table : Table) : Except Fault Sampler :=
  if table.entries.isEmpty then .error .empty
  else if h : 0 < table.totalWeight then .ok ⟨table.entries, table.totalWeight, rfl, h⟩
  else .error .weightless

/-- The index of the entry whose stretch of the cumulative weights holds `n`. -/
def locate : List Entry → Nat → Nat
  | [], _ => 0
  | e :: es, n => if n < e.weight.toNat then 0 else 1 + locate es (n - e.weight.toNat)

/-- The index of the entry that a random word selects, unless the word is rejected. -/
def select? (sampler : Sampler) (word : UInt64) : Option Nat :=
  (Uniform.accept64? sampler.total word).map (locate sampler.entries)

/-- How many words in a row a draw may reject. Fewer than one word in `2 ^ 64 / total` is. -/
def attempts : Nat := 4096

/-- Draws an entry. -/
def draw? {σ : Type} [WordSource σ] (sampler : Sampler) (s : σ) : Option Entry × σ :=
  let (n, s) := Uniform.below64? sampler.total attempts s
  (n.bind fun n => sampler.entries[locate sampler.entries n]?, s)

/-- Draws `n` entries, each independent of the others. -/
def drawMany {σ : Type} [WordSource σ] (sampler : Sampler) : Nat → σ → List Entry × σ
  | 0, s => ([], s)
  | n + 1, s =>
    let (entry, s) := sampler.draw? s
    let (entries, s) := drawMany sampler n s
    (entry.toList ++ entries, s)

/-- The probability that a draw gives the entry at an index. -/
def probability? (sampler : Sampler) (index : Nat) : Option Float :=
  sampler.entries[index]?.map fun e => e.weight.toFloat / sampler.total.toUInt64.toFloat

end Sampler

end SqlReplay.Weights
