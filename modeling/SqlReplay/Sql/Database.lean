import SqlReplay.Sql.Value

/-!
# Databases as values

A database is a list of tables. Each row has a row number, and rows are kept in the order of their
numbers. Names are compared without regard to the case of ASCII letters.
-/

namespace SqlReplay.Sql

/-- Whether two names are the same up to the case of ASCII letters. -/
def sameName (a b : String) : Bool := a.toList.map Char.toLower = b.toList.map Char.toLower

/-- A column of a table. -/
structure Column where
  name : String
  affinity : Affinity
  notNull : Bool
  /-- Whether no two rows may share a value. -/
  unique : Bool
  /-- Whether the column is another name of the row number. -/
  isRowNumber : Bool
deriving DecidableEq, Inhabited

/-- A row: its number and a value for each column. -/
structure Row where
  number : Int
  values : List Value
deriving DecidableEq, Inhabited

/-- A table. -/
structure Table where
  name : String
  columns : List Column
  rows : List Row
deriving DecidableEq, Inhabited

/-- The tables of a database, oldest first. -/
structure Database where
  tables : List Table
  /-- The pages that dropped tables have left for others. -/
  freePages : Nat
deriving DecidableEq, Inhabited

namespace Table

/-- The place of the column with the given name. -/
def columnIndex? (t : Table) (name : String) : Option Nat :=
  t.columns.findIdx? fun c => sameName c.name name

/-- The number of search trees that hold the table: its rows, and one for each unique column that
is not the row number. -/
def treeCount (t : Table) : Nat :=
  1 + (t.columns.filter fun c => c.unique && !c.isRowNumber).length

/-- The number of the next row: one more than the greatest, or one. -/
def nextNumber (t : Table) : Int :=
  match t.rows.getLast? with
  | some r => r.number + 1
  | none => 1

end Table

namespace Database

/-- The database without tables. -/
def empty : Database := ⟨[], 0⟩

/-- The table with the given name. -/
def table? (db : Database) (name : String) : Option Table :=
  db.tables.find? fun t => sameName t.name name

/-- Puts a table in the place of the one with the same name. -/
def update (db : Database) (table : Table) : Database :=
  { db with tables := db.tables.map fun t => if sameName t.name table.name then table else t }

/-- The database without the table of the given name. Its pages become free. -/
def drop (db : Database) (name : String) : Database :=
  let (gone, kept) := db.tables.partition fun t => sameName t.name name
  ⟨kept, db.freePages + (gone.map Table.treeCount).foldr (· + ·) 0⟩

/-- The database with one more table. It takes free pages first. -/
def add (db : Database) (table : Table) : Database :=
  ⟨db.tables ++ [table], db.freePages - table.treeCount⟩

/-- Whether two databases have the same tables, whatever rows are in them. -/
def sameTables (a b : Database) : Bool :=
  a.tables.map (fun t => (t.name, t.columns)) = b.tables.map (fun t => (t.name, t.columns))

/-- The number of pages the database takes: one for the catalog, one for each search tree, and
those that are free. -/
def pageCount (db : Database) : Nat :=
  1 + (db.tables.map Table.treeCount).foldr (· + ·) 0 + db.freePages

end Database

end SqlReplay.Sql
