import SqlReplay.Replay.Target
import SqlReplay.Sql.Session

/-!
# File targets

The engine that targets run on here: sessions on files that hold databases as data trees, with a
part of the query language.  It never waits for a lock.
-/

namespace SqlReplay.Sql

open Storage Replay

/-- The kind of a failure, which a fault at a place of the text has not. -/
def Error.code? : Error → Option EngineCode
  | full => some .full
  | cannotOpen => some .cannotOpen
  | cannotAttach _ => some .cannotOpen
  | notADatabase => some .notADatabase
  | inputOutput => some .inputOutput
  | e => if e.offset?.isSome then none else some .other

/-- The cause of a failure in a text of several statements. -/
def Session.ScriptFault.cause : Session.ScriptFault → Error
  | unprepared cause _ => cause
  | failed cause => cause

/-- A text of statements, of which those are to come whose tokens are left, from a byte on. -/
structure Script where
  text : String
  start : Nat
  tokens : List Token
deriving Inhabited

namespace Session

/-- Prepares the next statement of a text. -/
def prepareNext (b : Script) (s : Session) (d : Disk) :
    Except EngineFault (Option (Operation × Script)) × Session × Disk :=
  match s.prepareFirst d b.tokens with
  | (.error fault, s) => (.error ⟨fault.code?, fault.reportFrom b.start b.text⟩, s, d)
  | (.ok none, s) => (.ok none, s, d)
  | (.ok (some (operation, rest)), s) =>
    (.ok (some (operation, ⟨b.text, startAfter b.tokens rest b.start, rest⟩)), s, d)

/-- Opens a session, or tells that the file cannot be opened. -/
def openingAt (p : Path) (d : Disk) : Except EngineFault Session × Disk :=
  match opening d p with
  | (none, d) => (.error ⟨some .cannotOpen, "unable to open database file: " ++ p.display⟩, d)
  | (some s, d) => (.ok s, d)

instance : Engine Session where
  Prepared := Operation
  Batch := Script
  opening := openingAt
  wait _ s d := (.ok (), s, d)
  perform text s d :=
    let (result, s, d) := s.runScript d text
    (result.mapError fun fault => ⟨fault.cause.code?, fault.report text⟩, s, d)
  autocommits := autocommit
  batch text := ⟨text, 0, scan text.toList⟩
  next := prepareNext
  run operation s d :=
    let (result, s, d) := s.step d operation
    (result.mapError fun fault => ⟨fault.code?, fault.message⟩, s, d)
  close s d := (.ok (), s.close d)

end Session

end SqlReplay.Sql

namespace SqlReplay.Replay

open Storage

/-- A target on that engine. -/
abbrev FileTarget := Target Sql.Session

/-- A target on that engine with files under a directory, which does not wait for locks. -/
def FileTarget.connect (dataDir : Path) (disk : Disk) : Except Error Unit × FileTarget :=
  Target.connect dataDir 0 disk

end SqlReplay.Replay
