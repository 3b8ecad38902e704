import SqlReplay.Document.Basic
import SqlReplay.Text.Blank
import SqlReplay.Text.Lines
import SqlReplay.Text.Natural
import SqlReplay.Text.Split
import SqlReplay.Weights.Table

/-!
# The text form of a weight table

One record a line, `first,second:weight`. Reading skips blank lines and trims the others; it stops
at the first line that is no record and tells its number and what is wrong with it.
-/

namespace SqlReplay.Weights

/-- The record of an entry, without line ending. -/
def Entry.record (e : Entry) : List Char :=
  e.pair.first.toList ++ ',' :: (e.pair.second.toList ++ ':' :: e.weight.toNat.repr.toList)

/-- `Entry.record` as a string. -/
def Entry.recordText (e : Entry) : String := String.ofList e.record

/-- An entry as a data tree. -/
def Entry.document (e : Entry) : Document := .record [
  ("pair", .record [("first", .text e.pair.first), ("second", .text e.pair.second)]),
  ("weight", .ofNat e.weight.toNat)]

/-- The text of a table. -/
def Table.render (table : Table) : List Char := table.entries.flatMap fun e => e.record ++ ['\n']

/-- Why a line is no record. -/
inductive RecordFault
  | missingColon (line : String)
  | missingComma (line : String)
  | badName (name : String)
  | selfPair (name : String)
  | badWeight (weight : String) (fault : Text.NaturalFault)
deriving DecidableEq

/-- The fault in words. -/
def RecordFault.message : RecordFault → String
  | missingColon line => "missing ':' in " ++ Text.quoted line
  | missingComma line => "missing ',' in " ++ Text.quoted line
  | badName name => "invalid option name " ++ Text.quoted name
  | selfPair name => "self-pair " ++ Text.quoted name
  | badWeight weight fault => "bad weight " ++ Text.quoted weight ++ ": " ++ fault.message

/-- Reads a record. -/
def Entry.ofRecord (line : List Char) : Except RecordFault Entry :=
  match Text.splitLast? ':' line with
  | none => .error (.missingColon (String.ofList line))
  | some (names, weight) =>
    match Text.splitFirst? ',' names with
    | none => .error (.missingComma (String.ofList line))
    | some (first, second) =>
      if !isOptionName first then .error (.badName (String.ofList first))
      else if !isOptionName second then .error (.badName (String.ofList second))
      else if first = second then .error (.selfPair (String.ofList first))
      else match Text.readUInt32 weight with
        | .error fault => .error (.badWeight (String.ofList weight) fault)
        | .ok w => .ok ⟨⟨String.ofList first, String.ofList second⟩, w⟩

/-- A line that is no record. -/
structure LineFault where
  line : Nat
  cause : RecordFault
deriving DecidableEq

/-- Reads numbered lines, blank ones skipped. -/
def readRecords : List (Nat × List Char) → Except LineFault (List Entry)
  | [] => .ok []
  | (number, raw) :: rest =>
    let line := Text.trim raw
    if line.isEmpty then readRecords rest
    else match Entry.ofRecord line with
      | .error cause => .error ⟨number, cause⟩
      | .ok entry => (readRecords rest).map (entry :: ·)

/-- Reads the text of a table. -/
def Table.parse (text : List Char) : Except LineFault Table :=
  (readRecords (Text.numberedLines text)).map Table.mk

end SqlReplay.Weights
