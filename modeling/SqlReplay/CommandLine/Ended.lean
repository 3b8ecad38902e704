import SqlReplay.CommandLine.Perform

/-!
# How a run ends

The journal is written and closed, the result is printed, and then a problem is told on the error
stream. The first problem met decides the exit code. If printing the result panics, and a panic
aborts the program, the journal is not closed, and the lines in its buffer are lost.
-/

namespace SqlReplay.CommandLine

open Storage

/-- What the clock says of a run. -/
structure Clock where
  /-- The time of the run. -/
  time : String
  /-- How long the command took, in milliseconds. -/
  elapsedMs : Nat
deriving Inhabited

/-- An event with its time. A completed replay also tells how long it took. -/
def Clock.stamp (clock : Clock) (event : Event) : Entry :=
  ⟨clock.time,
    if event.kind = .replayComplete then { event with durationMs := some clock.elapsedMs }
    else event⟩

/-- What a run leaves. -/
structure Ended where
  exitCode : Nat
  output : String
  errors : String
  disk : Disk

/-- How many bytes of a result are held back before any is written. -/
def outputBuffer : Nat := 1024

/-- The problem with writing a result where nothing can be written. A result that fits the buffer is
found unwritable only once it is complete. -/
def outputProblem? (mode : Mode) (fault : Fault) (text : String) : Option Problem :=
  match mode with
  | .human => if text.isEmpty then none else some (.unprintable fault)
  | .json =>
    if text.utf8ByteSize ≤ outputBuffer + 1 then some (.unwritable fault)
    else some (.unserializable fault.message)

/-- Prints the answer of a command: the text printed and the first problem met. -/
def printed (style : Style) (outputFault : Option Fault) (elapsedMs : Nat)
    (answer : Except Problem Answer) : String × Option Problem :=
  match answer with
  | .error problem => ("", some problem)
  | .ok answer => match answer.text style elapsedMs with
    | .error problem => ("", some problem)
    | .ok text => match outputFault with
      | none => (text, answer.problem?)
      | some fault => ("", (outputProblem? (answer.modeIn style) fault text).or answer.problem?)

/-- A journal with the events of a command written to it. -/
def Performance.writing (p : Performance) (clock : Clock) (journal : Journal) : Logging :=
  (Logging.mk journal p.disk p.errors).writeAll (p.events.map clock.stamp)

/-- Writes the events of a command to its journal and closes it. -/
def Performance.logged (p : Performance) (clock : Clock) : Disk × ErrorStream :=
  match p.journal with
  | none => (p.disk, p.errors)
  | some journal => ((p.writing clock journal).finish, (p.writing clock journal).errors)

/-- The disk if the program is aborted before the journal is closed. -/
def Performance.abandoned (p : Performance) (clock : Clock) : Disk :=
  match p.journal with
  | none => p.disk
  | some journal => (p.writing clock journal).disk

/-- Tells a problem on the error stream. That it cannot be told is a panic. -/
def told (aborts : Bool) (errors : ErrorStream) : Option Problem → Nat × ErrorStream
  | none => (0, errors)
  | some problem =>
    let (arrived, errors) := errors.put ("srh: " ++ problem.message ++ "\n")
    (if arrived then problem.exitCodeIn aborts else panicCode aborts, errors)

/-- Ends a run. -/
def Performance.ended (p : Performance) (c : Circumstances) (style : Style) (clock : Clock) :
    Ended :=
  let (text, problem) := printed style c.outputFault clock.elapsedMs p.answer
  let (disk, errors) := p.logged clock
  let (exitCode, errors) := told c.aborts errors problem
  { exitCode := exitCode
    output := p.announced ++ text
    errors := p.warned ++ errors.text
    disk := if c.aborts && problem.any Problem.panics then p.abandoned clock else disk }

/-- Runs a command from its beginning to its end. -/
def Invocation.run (i : Invocation) (c : Circumstances) (clock : Clock) (disk : Disk) : Ended :=
  (i.perform c disk).ended c (c.style i.common) clock

end SqlReplay.CommandLine
