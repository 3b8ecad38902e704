import SqlReplay.CommandLine.Problem
import SqlReplay.CommandLine.Style
import SqlReplay.Replay.Report
import SqlReplay.Weights.Generation
import SqlReplay.Weights.Record

/-!
# Answers

What a command that was carried out has to tell, as lines for people and as data. Data is one line
of JSON whose fields are sorted by name.
-/

namespace SqlReplay.CommandLine

open Storage Replay Weights

/-- What a command has to tell. -/
inductive Answer
  | replayed (log : Path) (report : Report)
  | generated (summary : Summary)
  | heaviest (path : Path) (table : Table) (top : List Weights.Entry)
  | drawn (path : Path) (draws : List Weights.Entry)
  | configFile (path : Path) (present : Bool)
  | settings (config : Config)
  | valid (source : Path) (hash : String)
  | completions (shell : Shell)

/-! ## Lines for people -/

/-- The line that announces a replay. -/
def announcement (config : Config) : String :=
  "Replaying " ++ config.replay.logPath.display ++ " into database '" ++ config.target.database
    ++ "'..."

/-- The lines on a refused statement. -/
def failureLines (style : Style) (f : Replay.Failure) : List String := [
  style.paint .bad "FAILED" ++ s!" statement {f.position} (line {f.line})",
  "   SQL:   " ++ f.sql,
  "   Error: " ++ f.message]

/-- The line that sums up a replay. -/
def summaryLine (style : Style) (elapsedMs : Nat) (report : Report) : String :=
  let verdict := if report.isClean then style.paint .good "OK" else style.paint .mixed "DONE"
  verdict ++ s!" {report.attempted} attempted, {report.succeeded} succeeded, "
    ++ s!"{report.failed} failed ({elapsedMs} ms)"

/-- The lines on a replay. Failures are told even where all else is not. -/
def reportLines (style : Style) (elapsedMs : Nat) (report : Report) : List String :=
  if report.status = .nothingToRun then
    [style.paint .note "No executable SQL statements found in the log."]
  else
    report.failures.flatMap (failureLines style)
      ++ if style.quiet then [] else [summaryLine style elapsedMs report]

/-- The lines on a generated table. -/
def generationLines (style : Style) (s : Summary) : List String :=
  if style.quiet then []
  else [
    style.paint .good "OK" ++ s!" generated {s.pairs} pairs from {s.options} options, saved to "
      ++ s.path.display,
    s!"   weights in [{s.range.min}, {s.range.max}], total {s.totalWeight}"]

/-- The commands that completions offer. -/
def offered : String := "replay weights config completions help"

/-- The completions for a shell. -/
def completionText : Shell → String
  | .bash => "complete -W \"" ++ offered ++ "\" srh"
  | .elvish => "set edit:completion:arg-completer[srh] = \x7b|@words| put " ++ offered ++ " \x7d"
  | .fish => "complete -c srh -f -a \"" ++ offered ++ "\""
  | .powershell =>
    "Register-ArgumentCompleter -Native -CommandName srh -ScriptBlock \x7b \"" ++ offered
      ++ "\" -split \" \" \x7d"
  | .zsh => "compdef \"compadd " ++ offered ++ "\" srh"

namespace Answer

/-- The lines for people. -/
def lines (style : Style) (elapsedMs : Nat) : Answer → Except Problem (List String)
  | replayed _ report => .ok (reportLines style elapsedMs report)
  | generated summary => .ok (generationLines style summary)
  | heaviest path table top => .ok (
    s!"{table.size} pairs, total weight {table.totalWeight} ({path.display})"
      :: top.map fun e => "  " ++ e.recordText)
  | drawn _ draws => .ok (draws.map Weights.Entry.recordText)
  | configFile path present => .ok (
    path.display :: if present then [] else ["  (file does not exist; defaults will be used)"])
  | settings config => match config.fileText with
    | .ok text => .ok [String.ofList text]
    | .error fault => .error (.unprintableSettings fault)
  | valid source hash => .ok [
    "Configuration is valid.", "  Source: " ++ source.display, "  Hash: " ++ hash]
  | completions shell => .ok [completionText shell]

/-! ## Data -/

/-- Data that may have no written form. -/
def written (d : Option Document) : Except Problem Document :=
  match d with
  | some d => .ok d
  | none => .error (.unserializable Config.unwritablePath)

/-- The data, its first field the name of the command. -/
def document (elapsedMs : Nat) : Answer → Except Problem Document
  | replayed log report => .ok (.record [
    ("command", .text "replay"), ("log", .text log.display),
    ("report", report.document elapsedMs)])
  | generated summary => do
    return .record [
      ("command", .text "weights generate"), ("summary", ← written summary.document?)]
  | heaviest path table top => .ok (.record [
    ("command", .text "weights show"), ("path", .text path.display),
    ("pairs", .ofNat table.size), ("total_weight", .ofNat table.totalWeight),
    ("top", .list (top.map Weights.Entry.document))])
  | drawn path draws => .ok (.record [
    ("command", .text "weights sample"), ("path", .text path.display),
    ("draws", .list (draws.map Weights.Entry.document))])
  | configFile path present => .ok (.record [
    ("command", .text "config path"), ("path", .text path.display), ("exists", .flag present)])
  | settings config => do
    return .record [("command", .text "config show"), ("config", ← written config.document?)]
  | valid source hash => .ok (.record [
    ("command", .text "config validate"), ("valid", .flag true),
    ("source", .text source.display), ("hash", .text hash)])
  | completions shell => .ok (.record [
    ("command", .text "completions"), ("script", .text (completionText shell))])

/-! ## The written answer -/

/-- Lines with their line feeds. -/
def join (lines : List String) : String := String.join (lines.map fun line => line ++ "\n")

/-- The mode in which an answer is told. Completions are a script whatever the mode. -/
def modeIn (style : Style) : Answer → Mode
  | completions _ => .human
  | _ => style.mode

/-- The text of an answer. -/
def text (style : Style) (elapsedMs : Nat) (answer : Answer) : Except Problem String :=
  match answer.modeIn style with
  | .human => (answer.lines style elapsedMs).map join
  | .json => (answer.document elapsedMs).map fun d => d.sortFields.jsonText ++ "\n"

/-- The problem that an answer tells of although the command was carried out. -/
def problem? : Answer → Option Problem
  | replayed _ report =>
    if report.isClean then none else some (.refused report.failed report.attempted)
  | _ => none

end Answer

end SqlReplay.CommandLine
