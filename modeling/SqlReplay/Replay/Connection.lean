import SqlReplay.Error
import SqlReplay.Text.Quoted

/-!
# Connections to a target

What a replay needs of a target: to run a statement, to commit, to be closed, to tell whether it is
open, and to start over with an empty database. A connection is a state that each of these acts on.
-/

namespace SqlReplay.Replay

/-- Why a statement did not run. -/
inductive ExecFault
  /-- The session is lost. -/
  | fatal (message : String)
  /-- The target refuses the statement and the session goes on. -/
  | rejected (message : String)
deriving DecidableEq

namespace ExecFault

/-- Whether the session is lost. -/
def isFatal : ExecFault → Bool
  | fatal _ => true
  | rejected _ => false

/-- What the target said. -/
def message : ExecFault → String
  | fatal m => m
  | rejected m => m

/-- What the target said, with a mark if the session is lost. -/
def display : ExecFault → String
  | fatal m => "fatal: " ++ m
  | rejected m => m

end ExecFault

/-- Whether a character can stand in a database name. -/
def isDatabaseNameChar (c : Char) : Bool := c.isAlphanum || c = '_'

/-- Refuses a database name that is empty or has a character other than an ASCII letter, a digit or
an underscore. Such names can stand in statements and file names as they are. -/
def checkDatabaseName (name : String) : Except Error Unit :=
  if name.toList.isEmpty then .error (.invalidConfig "target database name must not be empty")
  else if name.toList.all isDatabaseNameChar then .ok ()
  else .error (.invalidConfig
    ("target database name " ++ Text.quoted name ++ " must match [A-Za-z0-9_]+"))

/-- The state of a connection. Every action gives its outcome and the state after it. -/
class Connection (σ : Type) where
  /-- Runs one statement and drops its rows. -/
  execute : String → σ → Except ExecFault Unit × σ
  /-- Makes everything executed so far durable. -/
  commit : σ → Except Error Unit × σ
  /-- Ends the session. -/
  close : σ → Except Error Unit × σ
  /-- Whether the session has not ended. -/
  isOpen : σ → Bool
  /-- Drops the named database if it exists, makes it anew and selects it. -/
  reset : String → σ → Except Error Unit × σ

namespace Connection

variable {σ : Type}

/-- Runs statements in order up to the first that fails; each failure counts as one of the
connection. -/
def resetWith (execute : String → σ → Except ExecFault Unit × σ) :
    List String → σ → Except Error Unit × σ
  | [], s => (.ok (), s)
  | sql :: rest, s =>
    match execute sql s with
    | (.error fault, s) => (.error (.connection "reset_database" fault.message), s)
    | (.ok (), s) => resetWith execute rest s

/-- The statements that start a database over on a server. -/
def resetStatements (name : String) : List String :=
  ["DROP DATABASE IF EXISTS " ++ name, "CREATE DATABASE " ++ name, "USE " ++ name]

/-- Starts a database over as a server does it: by statements. -/
def serverReset (execute : String → σ → Except ExecFault Unit × σ) (name : String) (s : σ) :
    Except Error Unit × σ :=
  match checkDatabaseName name with
  | .error fault => (.error fault, s)
  | .ok () => resetWith execute (resetStatements name) s

/-! ## Guarded use -/

variable [Connection σ]

/-- Closes the connection unless it is closed already. -/
def release (s : σ) : σ := if isOpen s then (close s).2 else s

/-- Closes the connection, and releases it should it still be open after that. -/
def finish (s : σ) : Except Error Unit × σ :=
  let (result, s) := close s
  (result, release s)

end Connection

end SqlReplay.Replay
