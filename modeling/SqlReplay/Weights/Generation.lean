import SqlReplay.Config.Check
import SqlReplay.Event.Event
import SqlReplay.Random.ChaCha
import SqlReplay.Weights.Store

/-!
# Generating a weight table

The configured catalog and range make a table, which replaces the file at the configured path. A
seed makes the weights repeatable; without one they come from the given words. One event tells of a
table that was written, and none of one that was not.
-/

namespace SqlReplay.Weights

open Storage

/-- What a generated table is. -/
structure Summary where
  path : Path
  options : Nat
  pairs : Nat
  range : Range
  seed : Option UInt64
  totalWeight : Nat

namespace Summary

/-- The summary as a data tree, if the path is a text. -/
def document? (s : Summary) : Option Document :=
  s.path.text?.map fun path => .record [
    ("path", .text path), ("options", .ofNat s.options), ("pairs", .ofNat s.pairs),
    ("min_weight", .ofNat s.range.min.toNat), ("max_weight", .ofNat s.range.max.toNat),
    ("seed", match s.seed with | some seed => .ofNat seed.toNat | none => .null),
    ("total_weight", .ofNat s.totalWeight)]

/-- The event that tells of the table. -/
def event (s : Summary) : Event :=
  { (Event.of .weightsGenerated .info).withPath s.path with
    count := some s.pairs, details := s.seed.map fun seed => s!"seed={seed}" }

end Summary

/-- The table of a catalog: repeatable if there is a seed. -/
def seededTable {σ : Type} [WordSource σ] (catalog : Catalog) (range : Range)
    (seed : Option UInt64) (source : σ) : Table :=
  match seed with
  | some seed => (Table.generate catalog range (ChaCha.Generator.ofSeed seed)).1
  | none => (Table.generate catalog range source).1

/-- What a generation leaves. -/
structure Generation where
  result : Except Error Summary
  events : List Event
  disk : Disk

/-- Generates a table from settings. -/
def generate {σ : Type} [WordSource σ] (config : Config) (source : σ) (d : Disk) : Generation :=
  match config.catalog with
  | .error fault => ⟨.error fault, [], d⟩
  | .ok catalog => match config.range with
    | .error fault => ⟨.error fault, [], d⟩
    | .ok range =>
      let table := seededTable catalog range config.weights.seed source
      let path := config.weights.outputPath
      match table.persist d path with
      | (.error fault, d) => ⟨.error fault, [], d⟩
      | (.ok (), d) =>
        let summary : Summary :=
          ⟨path, catalog.size, table.size, range, config.weights.seed, table.totalWeight⟩
        ⟨.ok summary, [summary.event], d⟩

end SqlReplay.Weights
