import SqlReplay.Random.Uniform
import SqlReplay.Weights.Catalog
import SqlReplay.Weights.Range

/-!
# Weight tables

A table lists pairs of options with their weights. A generated table holds every pair of a catalog
once, in the order of the catalog, each with a weight of its own drawn from the range.
-/

namespace SqlReplay.Weights

/-- An unordered pair of options, stored in the order in which it was named. -/
structure Pair where
  first : String
  second : String
deriving DecidableEq, Inhabited

/-- Whether two pairs name the same two options, in whichever order. -/
def Pair.same (p q : Pair) : Bool :=
  (p.first = q.first && p.second = q.second) || (p.first = q.second && p.second = q.first)

/-- A pair and its weight. -/
structure Entry where
  pair : Pair
  weight : UInt32
deriving DecidableEq, Inhabited

/-- Entries in order, as generated or as read. -/
structure Table where
  entries : List Entry
deriving DecidableEq, Inhabited

/-! ## Generation -/

/-- Every pair of names once: each name with the names after it. -/
def pairsOf : List String → List Pair
  | [] => []
  | name :: names => names.map (Pair.mk name) ++ pairsOf names

/-- Draws a weight from the range. -/
def Range.draw {σ : Type} [WordSource σ] (range : Range) (s : σ) : UInt32 × σ :=
  let (n, s) := Uniform.below32 range.size s
  (range.min + UInt32.ofNat n, s)

/-- Draws a weight for each pair in turn. -/
def weigh {σ : Type} [WordSource σ] (range : Range) : List Pair → σ → List Entry × σ
  | [], s => ([], s)
  | pair :: pairs, s =>
    let (weight, s) := range.draw s
    let (entries, s) := weigh range pairs s
    (⟨pair, weight⟩ :: entries, s)

namespace Table

/-- A table of all pairs of the catalog with fresh weights. -/
def generate {σ : Type} [WordSource σ] (catalog : Catalog) (range : Range) (s : σ) : Table × σ :=
  let (entries, s) := weigh range (pairsOf catalog.names) s
  (⟨entries⟩, s)

/-! ## Queries -/

/-- The number of entries. -/
def size (table : Table) : Nat := table.entries.length

/-- The pairs in order. -/
def pairs (table : Table) : List Pair := table.entries.map Entry.pair

/-- The sum of all weights. -/
def totalWeight (table : Table) : Nat :=
  (table.entries.map fun e => e.weight.toNat).foldr (· + ·) 0

/-- The weight of the first entry that names the two options, in whichever order. -/
def weightOf? (table : Table) (first second : String) : Option UInt32 :=
  (table.entries.find? fun e => e.pair.same ⟨first, second⟩).map Entry.weight

/-- The `n` entries of greatest weight, heaviest first, equal weights in table order. -/
def heaviest (table : Table) (n : Nat) : List Entry :=
  (table.entries.mergeSort fun a b => b.weight ≤ a.weight).take n

end Table

end SqlReplay.Weights
