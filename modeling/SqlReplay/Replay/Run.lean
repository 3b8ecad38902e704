import SqlReplay.Replay.Connection
import SqlReplay.Replay.Report

/-!
# Replaying a log

The statements of a log run in order on a connection that has been reset. A refused statement is
recorded and passed over; a lost session ends the replay. If no session was lost, everything is
committed once at the end. A run gives its result, the events it told, and the connection it leaves.
-/

namespace SqlReplay.Replay

/-- The outcome of a run on a connection. -/
structure Outcome (σ α : Type) where
  result : Except Error α
  events : List Event
  state : σ

variable {σ : Type} [Connection σ]

/-- How far the statements of a log have come. -/
structure Progress (σ : Type) where
  /-- The failure that ended the run, if one did. -/
  lost : Option Error
  /-- The number of statements that were executed, whatever came of it. -/
  attempted : Nat
  failures : List Failure
  events : List Event
  state : σ

/-- The failure of a run whose session is lost at a statement. -/
def lostAt (statement : LoggedStatement) (message : String) : Error :=
  .connection "replay" (s!"statement {statement.position}: " ++ message)

/-- The event that ends a run whose session is lost at a statement. -/
def abortedAt (statement : LoggedStatement) (fault : Error) : Event :=
  { (Event.of .replayAborted .critical).withError fault with
    position := some statement.position, line := some statement.line, sql := some statement.sql }

/-- The event that ends a run for a reason that lies at no statement. -/
def aborted (fault : Error) : Event := (Event.of .replayAborted .critical).withError fault

/-- Runs statements in order up to the first that loses the session. -/
def runStatements : List LoggedStatement → σ → Progress σ
  | [], s => ⟨none, 0, [], [], s⟩
  | statement :: rest, s =>
    match Connection.execute statement.sql s with
    | (.ok (), s) =>
      let progress := runStatements rest s
      { progress with attempted := progress.attempted + 1 }
    | (.error (.rejected message), s) =>
      let failure := Failure.ofStatement statement message
      let progress := runStatements rest s
      { progress with
        attempted := progress.attempted + 1
        failures := failure :: progress.failures, events := failure.event :: progress.events }
    | (.error (.fatal message), s) =>
      let fault := lostAt statement message
      ⟨some fault, 1, [], [abortedAt statement fault], s⟩

/-- The event that ends a run that completed. -/
def completedEvent (report : Report) : Event :=
  { Event.of .replayComplete .info with
    count := some report.attempted, failed := some report.failed }

/-- Runs the statements of a log and commits. -/
def replay (log : ReplayLog) (s : σ) : Outcome σ Report :=
  let progress := runStatements log.statements s
  match progress.lost with
  | some fault => ⟨.error fault, progress.events, progress.state⟩
  | none =>
    match Connection.commit progress.state with
    | (.error fault, s) => ⟨.error fault, progress.events ++ [aborted fault], s⟩
    | (.ok (), s) =>
      let report : Report := ⟨.completed, none, log.size, progress.attempted, progress.failures⟩
      ⟨.ok report, progress.events ++ [completedEvent report], s⟩

/-- Starts the named database over. -/
def resetDatabase (database : String) (s : σ) : Outcome σ Unit :=
  match Connection.reset database s with
  | (.ok (), s) =>
    ⟨.ok (), [{ Event.of .databaseReset .info with database := some database }], s⟩
  | (.error fault, s) =>
    ⟨.error fault, [{ aborted fault with database := some database }], s⟩

/-- The event that opens a run. -/
def startEvent (database : String) (log : ReplayLog) : Event :=
  { Event.of .replayStart .info with
    database := some database, count := some log.size
    path := log.source.map Storage.Path.display }

/-- Starts the named database over and replays a log on it. A log without statements leaves the
connection untouched. -/
def resetAndReplay (database : String) (log : ReplayLog) (s : σ) : Outcome σ Report :=
  if log.isEmpty then ⟨.ok .nothingToRun, [], s⟩
  else
    let start := startEvent database log
    let reset := resetDatabase database s
    match reset.result with
    | .error fault => ⟨.error fault, start :: reset.events, reset.state⟩
    | .ok () =>
      let run := replay log reset.state
      ⟨run.result.map fun report => { report with database := some database },
        start :: (reset.events ++ run.events), run.state⟩

/-- Ends a run: the connection is closed, and a failure to close is the result of a run that went
well. In any case the connection is released. -/
def Outcome.finished {α : Type} (o : Outcome σ α) : Outcome σ α :=
  match o.result with
  | .error fault => ⟨.error fault, o.events, Connection.release o.state⟩
  | .ok a => match Connection.finish o.state with
    | (.error fault, s) => ⟨.error fault, o.events, s⟩
    | (.ok (), s) => ⟨.ok a, o.events, s⟩

end SqlReplay.Replay
