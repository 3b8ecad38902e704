import SqlReplay.Event.Event
import SqlReplay.Log.ReplayLog

/-!
# Reports

What a replay found that ran to its end: how many statements were attempted and which of them the
target refused.
-/

namespace SqlReplay.Replay

/-- A statement that the target refused. -/
structure Failure where
  position : Nat
  line : Nat
  sql : String
  message : String
deriving DecidableEq, Inhabited

namespace Failure

/-- The failure of a logged statement. -/
def ofStatement (statement : LoggedStatement) (message : String) : Failure :=
  ⟨statement.position, statement.line, statement.sql, message⟩

/-- The failure as an error with a stable code. -/
def error (f : Failure) : Error := .statement f.position f.message

/-- The event that tells of the failure. -/
def event (f : Failure) : Event :=
  { (Event.of .statementFailed .warning).withError f.error with
    position := some f.position, line := some f.line, sql := some f.sql }

/-- The failure as a data tree. -/
def document (f : Failure) : Document := .record [
  ("position", .ofNat f.position), ("line", .ofNat f.line), ("sql", .text f.sql),
  ("message", .text f.message)]

end Failure

/-- How a replay ended. -/
inductive Status
  /-- Every statement was attempted and the transaction committed. -/
  | completed
  /-- The log has no statement, and the target was not touched. -/
  | nothingToRun
deriving DecidableEq, Inhabited

/-- The written name. -/
def Status.name : Status → String
  | completed => "completed"
  | nothingToRun => "nothing_to_run"

/-- What a replay found. -/
structure Report where
  status : Status
  database : Option String
  total : Nat
  attempted : Nat
  failures : List Failure
deriving DecidableEq, Inhabited

namespace Report

/-- The report on a log without statements. -/
def nothingToRun : Report := ⟨.nothingToRun, none, 0, 0, []⟩

/-- The number of refused statements. -/
def failed (r : Report) : Nat := r.failures.length

/-- The number of accepted statements. -/
def succeeded (r : Report) : Nat := r.attempted - r.failed

/-- Whether no statement was refused. -/
def isClean (r : Report) : Bool := r.failures.isEmpty

/-- The report as a data tree, with the time the replay took. -/
def document (r : Report) (elapsedMs : Nat) : Document := .record [
  ("status", .text r.status.name),
  ("database", match r.database with | some name => .text name | none => .null),
  ("total", .ofNat r.total), ("attempted", .ofNat r.attempted),
  ("failures", .list (r.failures.map Failure.document)), ("elapsed", .ofNat elapsedMs)]

end Report

end SqlReplay.Replay
