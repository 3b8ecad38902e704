import SqlReplay.Document.Json
import SqlReplay.Error

/-!
# Events

What a run tells about itself: one event for each thing that happened, with the facts that belong
to it. Facts that are not given are left out when the event is written.
-/

namespace SqlReplay

/-- What happened. -/
inductive EventKind
  | configLoaded
  | replayStart
  | databaseReset
  | statementFailed
  | replayComplete
  | replayAborted
  | weightsGenerated
deriving DecidableEq, Inhabited

namespace EventKind

/-- All kinds. -/
def all : List EventKind := [
  configLoaded, replayStart, databaseReset, statementFailed, replayComplete, replayAborted,
  weightsGenerated]

/-- The written name. -/
def name : EventKind → String
  | configLoaded => "config_loaded"
  | replayStart => "replay_start"
  | databaseReset => "database_reset"
  | statementFailed => "statement_failed"
  | replayComplete => "replay_complete"
  | replayAborted => "replay_aborted"
  | weightsGenerated => "weights_generated"

/-- The kind with the given name. -/
def ofName? (s : String) : Option EventKind := all.find? fun k => k.name = s

end EventKind

/-- How much an event matters. -/
inductive Severity
  | info
  | warning
  | critical
deriving DecidableEq, Inhabited

namespace Severity

/-- All severities. -/
def all : List Severity := [info, warning, critical]

/-- The written name. -/
def name : Severity → String
  | info => "info"
  | warning => "warning"
  | critical => "critical"

/-- The severity with the given name. -/
def ofName? (s : String) : Option Severity := all.find? fun k => k.name = s

end Severity

/-- An event without the time at which it happened. -/
structure Event where
  kind : EventKind
  severity : Severity
  database : Option String := none
  position : Option Nat := none
  line : Option Nat := none
  sql : Option String := none
  errorCode : Option String := none
  errorMessage : Option String := none
  count : Option Nat := none
  failed : Option Nat := none
  path : Option String := none
  durationMs : Option Nat := none
  details : Option String := none
deriving DecidableEq, Inhabited

namespace Event

/-- An event of which nothing more is told. -/
def of (kind : EventKind) (severity : Severity) : Event := { kind := kind, severity := severity }

/-- The event with the facts of a failure. -/
def withError (e : Event) (fault : Error) : Event :=
  { e with errorCode := some fault.code, errorMessage := some fault.message }

/-- The event with a path, as shown to people. -/
def withPath (e : Event) (path : Storage.Path) : Event := { e with path := some path.display }

/-- A field for a text, if there is one. -/
def textField (name : String) (value : Option String) : List (String × Document) :=
  (value.map fun s => (name, Document.text s)).toList

/-- A field for a number, if there is one. -/
def numberField (name : String) (value : Option Nat) : List (String × Document) :=
  (value.map fun n => (name, Document.ofNat n)).toList

/-- The fields of an event in the order in which they are written. -/
def fields (e : Event) : List (String × Document) :=
  [("event", .text e.kind.name), ("severity", .text e.severity.name)]
    ++ textField "database" e.database ++ numberField "position" e.position
    ++ numberField "line" e.line ++ textField "sql" e.sql
    ++ textField "error_code" e.errorCode ++ textField "error_message" e.errorMessage
    ++ numberField "count" e.count ++ numberField "failed" e.failed
    ++ textField "path" e.path ++ numberField "duration_ms" e.durationMs
    ++ textField "details" e.details

end Event

/-- An event with the time at which it happened. -/
structure Entry where
  time : String
  event : Event
deriving DecidableEq, Inhabited

namespace Entry

/-- The entry as a data tree. -/
def document (e : Entry) : Document := .record (("ts", .text e.time) :: e.event.fields)

/-- The greatest number that an entry can hold. -/
def numberLimit : Nat := UInt64.size - 1

/-- An optional field: absent, `null`, or a value that `read?` accepts. -/
def optional? {α : Type} (d : Document) (name : String) (read? : Document → Option α) :
    Option (Option α) :=
  match d.field? name with
  | none => some none
  | some value => if value.isNull then some none else (read? value).map some

/-- The entry that a data tree describes. Unknown fields do not matter. -/
def ofDocument? (d : Document) : Option Entry := do
  let time ← (← d.field? "ts").text?
  let kind ← EventKind.ofName? (← (← d.field? "event").text?)
  let severity ← Severity.ofName? (← (← d.field? "severity").text?)
  let number := Document.natural? numberLimit
  return ⟨time, {
    kind := kind
    severity := severity
    database := ← optional? d "database" Document.text?
    position := ← optional? d "position" number
    line := ← optional? d "line" number
    sql := ← optional? d "sql" Document.text?
    errorCode := ← optional? d "error_code" Document.text?
    errorMessage := ← optional? d "error_message" Document.text?
    count := ← optional? d "count" number
    failed := ← optional? d "failed" number
    path := ← optional? d "path" Document.text?
    durationMs := ← optional? d "duration_ms" number
    details := ← optional? d "details" Document.text? }⟩

/-- The line of an entry: its JSON and a line feed. -/
def line (e : Entry) : List Char := e.document.json ++ ['\n']

/-- The bytes of the line. -/
def lineBytes (e : Entry) : Bytes := Utf8.encode e.line

end Entry

end SqlReplay
