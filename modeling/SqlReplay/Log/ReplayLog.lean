import SqlReplay.Error
import SqlReplay.Storage.Disk
import SqlReplay.Text.Blank
import SqlReplay.Text.Lines
import SqlReplay.Text.Uppercase

/-!
# Replay logs

A captured log is a text in which everything before the first line that opens the block is noise.
From that line to the end, every line that is neither blank nor a comment is one statement. The
block opens at a line that begins with the opening phrase, upper and lower case aside; a comment
begins with the comment marker. Blanks around a line never matter.
-/

namespace SqlReplay

open Storage

/-- An executable line of a log. -/
structure LoggedStatement where
  /-- The place among the statements, counted from one. -/
  position : Nat
  /-- The number of the line in the log, counted from one. -/
  line : Nat
  sql : String
deriving DecidableEq, Inhabited

/-- The statements of a log. -/
structure ReplayLog where
  source : Option Path
  /-- The line that opened the block, if one did. -/
  blockStart : Option Nat
  statements : List LoggedStatement
deriving DecidableEq, Inhabited

/-- Whether the log has no statement. -/
def ReplayLog.isEmpty (log : ReplayLog) : Bool := log.statements.isEmpty

/-- The number of statements. -/
def ReplayLog.size (log : ReplayLog) : Nat := log.statements.length

/-- How the lines of a log are told apart. -/
structure LogFormat where
  /-- The opening phrase, in upper case. -/
  opening : List Char
  marker : List Char
deriving DecidableEq

namespace LogFormat

/-- The opening phrase where none is configured. -/
def defaultOpening : String := "CREATE TABLE"

/-- The comment marker where none is configured. -/
def defaultMarker : String := "--"

/-- The format with an opening phrase and a comment marker. Blanks around them and the case of the
phrase do not matter. -/
def ofMarkers (opening marker : String) : LogFormat :=
  ⟨Text.upper (Text.trim opening.toList), Text.trim marker.toList⟩

/-- The format where none is configured. -/
def default : LogFormat := ofMarkers defaultOpening defaultMarker

instance : Inhabited LogFormat := ⟨default⟩

/-- Whether a trimmed line opens the block. -/
def opens (format : LogFormat) (line : List Char) : Bool :=
  format.opening.isPrefixOf (Text.upper line)

/-- Whether a trimmed line is a comment. -/
def isComment (format : LogFormat) (line : List Char) : Bool := format.marker.isPrefixOf line

/-- Whether a trimmed line of the block is a statement. -/
def isStatement (format : LogFormat) (line : List Char) : Bool :=
  !line.isEmpty && !format.isComment line

/-- The numbered, trimmed lines from the one that opens the block. -/
def block (format : LogFormat) (text : List Char) : List (Nat × List Char) :=
  ((Text.numberedLines text).map fun l => (l.1, Text.trim l.2)).dropWhile fun l => !format.opens l.2

/-- Numbers statements by position. -/
def placed (lines : List (Nat × List Char)) : List LoggedStatement :=
  (Text.numberFrom 1 lines).map fun p => ⟨p.1, p.2.1, String.ofList p.2.2⟩

/-- The statements of a text. -/
def parse (format : LogFormat) (text : List Char) : ReplayLog :=
  let block := format.block text
  ⟨none, block.head?.map Prod.fst, placed (block.filter fun l => format.isStatement l.2)⟩

/-- The statements of a file. -/
def parseFile (format : LogFormat) (disk : Disk) (path : Path) : Except Error ReplayLog :=
  match disk.read path with
  | .error fault => .error (.ofRead path fault)
  | .ok content => match Utf8.decode content.bytes with
    | .error fault => .error (.io path (.badText fault))
    | .ok text => .ok { format.parse text with source := some path }

end LogFormat

end SqlReplay
