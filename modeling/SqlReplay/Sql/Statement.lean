import SqlReplay.Sql.Database

/-!
# Statements

The statements that a log replays: tables are created, dropped, filled, queried, changed and
emptied, transactions begin and end, a setting is changed, another file is attached.
-/

namespace SqlReplay.Sql

/-- An expression: a literal, a column, or a negated expression. -/
inductive Expr
  | literal (v : Value)
  /-- A column, or the text of its name where no such column exists and `orText` is set. -/
  | column (table : Option String) (name : String) (orText : Bool) (offset : Nat)
  | negate (e : Expr)
deriving DecidableEq, Inhabited

/-- A table name, possibly in a named database. -/
structure TableName where
  schema : Option String
  name : String
  /-- Where the whole begins. -/
  start : Nat
  /-- Where the table's own name begins. -/
  offset : Nat
deriving DecidableEq, Inhabited

/-- The name as messages show it. -/
def TableName.shown (t : TableName) : String :=
  match t.schema with
  | some s => s ++ "." ++ t.name
  | none => t.name

/-- How a transaction begins. -/
inductive BeginMode
  | deferred
  | immediate
  | exclusive
deriving DecidableEq, Inhabited

/-- One entry of a result list. -/
inductive ResultItem
  | all
  | expr (e : Expr)
deriving DecidableEq, Inhabited

/-- A statement. -/
inductive Statement
  | createTable (ifAbsent : Bool) (table : TableName) (columns : List Column)
  | dropTable (ifPresent : Bool) (table : TableName)
  | insert (table : TableName) (columns : Option (List String)) (rows : List (List Expr))
  | select (items : List ResultItem) (source : Option TableName)
  | update (table : TableName) (assignments : List (String × Expr))
  | delete (table : TableName)
  | begin (mode : BeginMode)
  | commit
  | rollback
  | pragma (name : String) (value : Option Int)
  | attach (file name : Expr)
deriving Inhabited

end SqlReplay.Sql
