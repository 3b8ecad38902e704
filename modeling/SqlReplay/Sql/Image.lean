import SqlReplay.Document.Json
import SqlReplay.Document.JsonReader
import SqlReplay.Sql.Database

/-!
# Databases in files

A database file is a data tree: every table with its columns and its numbered rows. Nothing is lost
in it, and a file that is no such tree holds no database.
-/

namespace SqlReplay.Sql

/-- The word that begins every database file. -/
def imageKind : String := "sql database"

namespace Affinity

/-- All affinities. -/
def all : List Affinity := [integer, text, blob, real, numeric]

/-- The written name. -/
def name : Affinity → String
  | integer => "integer"
  | text => "text"
  | blob => "blob"
  | real => "real"
  | numeric => "numeric"

/-- The affinity with the given name. -/
def ofName? (s : String) : Option Affinity := all.find? fun a => a.name = s

end Affinity

/-! ## Writing -/

/-- A value as a data tree. Texts, integers and `null` stand for themselves. -/
def Value.image : Value → Document
  | null => .null
  | integer n => .integer n
  | real bits => .record [("real", .ofNat bits.toNat)]
  | text s => .text s
  | blob bytes => .record [("blob", .list (bytes.map fun b => .ofNat b.toNat))]

/-- A column as a data tree. -/
def Column.image (c : Column) : Document := .record [
  ("name", .text c.name), ("affinity", .text c.affinity.name), ("not_null", .flag c.notNull),
  ("unique", .flag c.unique), ("row_number", .flag c.isRowNumber)]

/-- A row as a data tree. -/
def Row.image (r : Row) : Document := .list (.integer r.number :: r.values.map Value.image)

/-- A table as a data tree. -/
def Table.image (t : Table) : Document := .record [
  ("name", .text t.name), ("columns", .list (t.columns.map Column.image)),
  ("rows", .list (t.rows.map Row.image))]

/-- A database as a data tree. -/
def Database.image (db : Database) : Document := .record [
  ("kind", .text imageKind), ("free_pages", .ofNat db.freePages),
  ("tables", .list (db.tables.map Table.image))]

/-- The bytes of a database file. -/
def Database.fileBytes (db : Database) : Bytes := Utf8.encode (db.image.json ++ ['\n'])

/-! ## Reading -/

/-- The value that a tree stands for. -/
def Value.ofImage? : Document → Option Value
  | .null => some .null
  | .integer n => some (.integer n)
  | .text s => some (.text s)
  | d => match d.field? "real", d.field? "blob" with
    | some bits, none => (bits.natural? (UInt64.size - 1)).map fun n => .real (UInt64.ofNat n)
    | none, some bytes => do
      let bytes ← (← bytes.list?).mapM fun b => (b.natural? 255).map UInt8.ofNat
      return .blob bytes
    | _, _ => none

/-- The column that a tree stands for. -/
def Column.ofImage? (d : Document) : Option Column := do
  return {
    name := ← (← d.field? "name").text?
    affinity := ← Affinity.ofName? (← (← d.field? "affinity").text?)
    notNull := ← (← d.field? "not_null").flag?
    unique := ← (← d.field? "unique").flag?
    isRowNumber := ← (← d.field? "row_number").flag? }

/-- The row that a tree stands for. -/
def Row.ofImage? : Document → Option Row
  | .list (.integer number :: values) => (values.mapM Value.ofImage?).map (Row.mk number)
  | _ => none

/-- The table that a tree stands for. -/
def Table.ofImage? (d : Document) : Option Table := do
  let name ← (← d.field? "name").text?
  let columns ← (← (← d.field? "columns").list?).mapM Column.ofImage?
  let rows ← (← (← d.field? "rows").list?).mapM Row.ofImage?
  return ⟨name, columns, rows⟩

/-- The database that a tree stands for. -/
def Database.ofImage? (d : Document) : Option Database := do
  let kind ← (← d.field? "kind").text?
  let tables ← (← (← d.field? "tables").list?).mapM Table.ofImage?
  let freePages ← (← d.field? "free_pages").natural? UInt32.size
  if kind = imageKind then return ⟨tables, freePages⟩ else none

/-- The database in a file. -/
def Database.ofFileBytes? (bytes : Bytes) : Option Database :=
  (Utf8.decode? bytes).bind fun s => (Document.ofJsonText? s).bind Database.ofImage?

end SqlReplay.Sql
