import SqlReplay.Event.Event
import SqlReplay.Storage.Buffered

/-!
# Event journals

A journal appends entries to a file, one line each. Lines are gathered in a buffer and leave it
whole: when the next line does not fit, when the journal is flushed, and when it ends. A journal
whose file cannot be written goes on with the error stream, and one whose error stream cannot be
written either goes on in silence: logging never fails a run.
-/

namespace SqlReplay

open Storage

/-- The error stream of the program. -/
structure ErrorStream where
  /-- Whether what is written arrives. -/
  accepts : Bool
  text : String
deriving DecidableEq, Inhabited

/-- Writes to the error stream and tells whether it arrived. -/
def ErrorStream.put (e : ErrorStream) (text : String) : Bool × ErrorStream :=
  if e.accepts then (true, { e with text := e.text ++ text }) else (false, e)

/-- Where the lines of a journal go. -/
inductive Channel
  /-- To an open file, through a buffer. -/
  | file (id : Id) (buffer : Bytes)
  | errorStream
  | nowhere
deriving DecidableEq, Inhabited

/-- The written name of the state. -/
def Channel.name : Channel → String
  | file _ _ => "normal"
  | errorStream => "stderr"
  | nowhere => "discard"

/-- A journal. -/
structure Journal where
  path : Path
  channel : Channel
  /-- The number of lines the file or its buffer has taken. -/
  lines : Nat
deriving DecidableEq, Inhabited

/-- A journal with what it acts on. -/
structure Logging where
  journal : Journal
  disk : Disk
  errors : ErrorStream
deriving Inhabited

namespace Journal

/-- What every line on the error stream begins with. -/
def mark : String := "[SRH-JSONL] "

/-- Opens the file of a journal, its directories included. -/
def openFile (path : Path) (d : Disk) : Except Error Id × Disk :=
  match d.makeParents path with
  | (.error (parent, fault), d) => (.error (.io parent fault), d)
  | (.ok (), d) => match d.openFile path with
    | (.error fault, d) => (.error (.io path fault), d)
    | (.ok id, d) => (.ok id, d)

/-- A journal at a path. -/
def opening (path : Path) (d : Disk) (errors : ErrorStream) : Logging :=
  match openFile path d with
  | (.ok id, d) => ⟨⟨path, .file id [], 0⟩, d, errors⟩
  | (.error fault, d) =>
    ⟨⟨path, .errorStream, 0⟩, d, (errors.put (mark ++ fault.message ++ "; logging to stderr\n")).2⟩

end Journal

namespace Logging

/-- Writes a line to the error stream. -/
def putError (l : Logging) (line : String) : Logging :=
  let (arrived, errors) := l.errors.put (Journal.mark ++ line)
  let channel := if arrived then Channel.errorStream else .nowhere
  { l with journal := { l.journal with channel := channel }, errors := errors }

/-- Writes an entry. A file that cannot be written is given up after one last attempt to write what
is in the buffer. -/
def write (l : Logging) (entry : Entry) : Logging :=
  match l.journal.channel with
  | .file id buffer =>
    match Buffered.put id buffer entry.lineBytes l.disk with
    | (.ok (), buffer, d) =>
      { l with
        journal := { l.journal with channel := .file id buffer, lines := l.journal.lines + 1 }
        disk := d }
    | (.error _, buffer, d) =>
      { l with disk := (Buffered.drain id buffer d).2.2 }.putError (String.ofList entry.line)
  | .errorStream => l.putError (String.ofList entry.line)
  | .nowhere => l

/-- Writes entries in order. -/
def writeAll (l : Logging) (entries : List Entry) : Logging := entries.foldl write l

/-- Writes the buffer to the file, if there is one. -/
def flush (l : Logging) : Logging :=
  match l.journal.channel with
  | .file id buffer =>
    let (_, buffer, d) := Buffered.drain id buffer l.disk
    { l with journal := { l.journal with channel := .file id buffer }, disk := d }
  | _ => l

/-- Ends the journal. The buffer is written, and once more if that fails. -/
def finish (l : Logging) : Disk := l.flush.flush.disk

end Logging

end SqlReplay
