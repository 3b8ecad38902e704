import SqlReplay.Text.Utf8

/-!
# Failures of the query language

Each constructor is a cause. A fault in the text of a statement also knows the byte at which it
was noticed. A failure is fatal if the session cannot be trusted after it.
-/

namespace SqlReplay.Sql

/-- Why a statement is refused. -/
inductive Error
  | syntaxNear (token : String) (offset : Nat)
  | unrecognized (token : String) (offset : Nat)
  | incomplete
  | tableExists (name : String) (offset : Nat)
  | unknownDatabase (name : String) (offset : Nat)
  | duplicateColumn (name : String)
  | secondPrimaryKey (table : String)
  | unknownTableOption (name : String)
  | reservedName (name : String)
  | unequalRows
  | noSuchTable (name : String)
  | noSuchColumn (name : String) (offset : Option Nat)
  | noTables
  | noSuchTarget (table column : String)
  | valueCount (table : String) (columns values : Nat)
  | listedCount (values columns : Nat)
  | notNull (table column : String)
  | unique (table column : String)
  | typeMismatch
  | nestedTransaction
  | noTransactionToCommit
  | noTransactionToRollBack
  | databaseInUse (name : String)
  | locked
  | moved
  | full
  | cannotOpen
  | cannotAttach (path : String)
  | notADatabase
  | inputOutput
deriving DecidableEq

namespace Error

/-- The failure in words. -/
def message : Error → String
  | syntaxNear token _ => "near \"" ++ token ++ "\": syntax error"
  | unrecognized token _ => "unrecognized token: \"" ++ token ++ "\""
  | incomplete => "incomplete input"
  | tableExists name _ => "table " ++ name ++ " already exists"
  | unknownDatabase name _ => "unknown database " ++ name
  | duplicateColumn name => "duplicate column name: " ++ name
  | secondPrimaryKey table => "table \"" ++ table ++ "\" has more than one primary key"
  | unknownTableOption name => "unknown table option: " ++ name
  | reservedName name => "object name reserved for internal use: " ++ name
  | unequalRows => "all VALUES must have the same number of terms"
  | noSuchTable name => "no such table: " ++ name
  | noSuchColumn name _ => "no such column: " ++ name
  | noTables => "no tables specified"
  | noSuchTarget table column => "table " ++ table ++ " has no column named " ++ column
  | valueCount table columns values =>
    s!"table {table} has {columns} columns but {values} values were supplied"
  | listedCount values columns => s!"{values} values for {columns} columns"
  | notNull table column => "NOT NULL constraint failed: " ++ table ++ "." ++ column
  | unique table column => "UNIQUE constraint failed: " ++ table ++ "." ++ column
  | typeMismatch => "datatype mismatch"
  | nestedTransaction => "cannot start a transaction within a transaction"
  | noTransactionToCommit => "cannot commit - no transaction is active"
  | noTransactionToRollBack => "cannot rollback - no transaction is active"
  | databaseInUse name => "database " ++ name ++ " is already in use"
  | locked => "database is locked"
  | moved => "attempt to write a readonly database"
  | full => "database or disk is full"
  | cannotOpen => "unable to open database file"
  | cannotAttach path => "unable to open database: " ++ path
  | notADatabase => "file is not a database"
  | inputOutput => "disk I/O error"

/-- The byte of the line at which the failure was noticed. -/
def offset? : Error → Option Nat
  | syntaxNear _ offset => some offset
  | unrecognized _ offset => some offset
  | tableExists _ offset => some offset
  | unknownDatabase _ offset => some offset
  | noSuchColumn _ offset => offset
  | _ => none

/-- Whether a name is missing, or taken already. -/
def isAboutNames : Error → Bool
  | tableExists _ _ => true
  | noSuchTable _ => true
  | noSuchColumn _ _ => true
  | noSuchTarget _ _ => true
  | _ => false

/-- Whether the failure ends the session. -/
def isFatal : Error → Bool
  | full => true
  | cannotOpen => true
  | cannotAttach _ => true
  | notADatabase => true
  | inputOutput => true
  | _ => false

/-- The failure as reported for the line in which it occurred. -/
def report (e : Error) (line : String) : String :=
  match e.offset? with
  | some offset => e.message ++ s!" in {line} at offset {offset}"
  | none => e.message

/-- The failure as reported for a text of several statements: for the part that begins at byte
`start`, just after the statement before. -/
def reportFrom (e : Error) (start : Nat) (text : String) : String :=
  match e.offset? with
  | some offset =>
    let part := Utf8.display ((Utf8.ofString text).drop start)
    e.message ++ s!" in {part} at offset {offset - start}"
  | none => e.message

end Error

end SqlReplay.Sql
