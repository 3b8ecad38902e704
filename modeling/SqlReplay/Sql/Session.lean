import SqlReplay.Sql.Operation
import SqlReplay.Sql.Reader
import SqlReplay.Storage.Disk

/-!
# Sessions on a database file

A session reads and changes one database file. Outside a transaction every change is committed at
once; inside one, changes stay with the session until it commits, and the file keeps its committed
content. Locks on the file keep sessions apart: many may read, one may prepare changes beside the
readers, and it can commit when no reader is left. While a session has changes that are not
committed, a journal stands beside the file.
-/

namespace SqlReplay.Sql

open Storage

/-- An open session. -/
structure Session where
  id : Id
  /-- The file that was opened, whatever its name is now. -/
  file : Id
  path : Path
  /-- Whether each change is committed at once. -/
  autocommit : Bool
  /-- The database with the changes that are not committed. -/
  working : Option Database
  pageLimit : Option Nat
  attached : List (String × Id)
  /-- The database as it was when names were last looked up in it. -/
  known : Option Database
deriving Inhabited

namespace Session

/-! ## Content -/

/-- The database that a file holds. An empty file holds an empty database. -/
def databaseOf : Content → Except Error Database
  | .plain [] => .ok .empty
  | .plain _ => .error .notADatabase
  | .database db => .ok db

/-- The database committed to a file. -/
def committed (d : Disk) (file : Id) : Except Error Database :=
  match d.file? file with
  | some f => databaseOf f.content
  | none => .ok .empty

/-- The database as the session sees it. -/
def view (s : Session) (d : Disk) : Except Error Database :=
  match s.working with
  | some db => .ok db
  | none => committed d s.file

/-- The path of the journal. -/
def journal (s : Session) : Path := s.path.withSuffix "-journal"

/-- The number of pages that the session's database takes at the moment. -/
def pagesInUse (s : Session) (d : Disk) : Nat :=
  match s.working, d.file? s.file with
  | some db, _ => db.pageCount
  | none, some f => match f.content with
    | .database db => db.pageCount
    | .plain _ => 0
  | none, none => 0

/-! ## Locks -/

/-- The locks on the session's file. -/
def locks (s : Session) (d : Disk) : List (Id × LockLevel) :=
  ((d.file? s.file).map File.locks).getD []

/-- The session's own lock. -/
def lock? (s : Session) (d : Disk) : Option LockLevel := (s.locks d).lookup s.id

/-- Gives the session the lock, or none, in the place of the one it has. -/
def setLock (s : Session) (d : Disk) (level : Option LockLevel) : Disk :=
  d.modifyFile s.file fun f =>
    let others := f.locks.filter fun l => l.1 ≠ s.id
    match level with
    | some level => { f with locks := (s.id, level) :: others }
    | none => { f with locks := others }

/-- The locks of the other sessions. -/
def otherLocks (s : Session) (d : Disk) : List LockLevel :=
  ((s.locks d).filter fun l => l.1 ≠ s.id).map Prod.snd

/-- Whether another session keeps this one from beginning to read. -/
def barred (s : Session) (d : Disk) : Bool :=
  (s.otherLocks d).any fun l => l = .pending || l = .exclusive

/-- Takes the lock for reading. -/
def lockShared (s : Session) (d : Disk) : Except Error Disk :=
  match s.lock? d with
  | some _ => .ok d
  | none => if s.barred d then .error .locked else .ok (s.setLock d (some .shared))

/-- Takes the lock for preparing changes. -/
def lockReserved (s : Session) (d : Disk) : Except Error Disk :=
  match s.lockShared d with
  | .error fault => .error fault
  | .ok d' => match s.lock? d' with
    | some .shared =>
      if (s.otherLocks d').any (· ≠ .shared) then .error .locked
      else .ok (s.setLock d' (some .reserved))
    | _ => .ok d'

/-- Takes the lock for writing the file, or waits for the readers to leave. -/
def lockExclusive (s : Session) (d : Disk) : Except Error Unit × Disk :=
  if (s.otherLocks d).isEmpty then (.ok (), s.setLock d (some .exclusive))
  else (.error .locked, s.setLock d (some .pending))

/-! ## Transactions -/

/-- What the session knows once its changes are dropped: the database as committed, unless the
changes were to its tables. -/
def knownAfterRollback (s : Session) (d : Disk) : Option Database :=
  match s.working, s.known, committed d s.file with
  | none, known, _ => known
  | some changed, some _, .ok db =>
    if changed.sameTables db && changed.freePages = db.freePages then some db else none
  | _, _, _ => none

/-- Drops all changes that are not committed, ends the transaction and releases the lock. -/
def rollBack (s : Session) (d : Disk) : Session × Disk :=
  let known := s.knownAfterRollback d
  let d := if s.working.isSome then (d.removeFile s.journal).2 else d
  ({ s with working := none, autocommit := true, known := known }, s.setLock d none)

/-- Whether the session holds no more than the lock for reading. -/
def isReading (s : Session) (d : Disk) : Bool := (s.lock? d).all (· = .shared)

/-- Makes the changes durable and ends the transaction. Removing the journal is what commits. A
session that may write stays in the transaction while there are readers, even if it has changed
nothing. -/
def commit (s : Session) (d : Disk) : Except Error Unit × Session × Disk :=
  match if s.isReading d then (.ok (), d) else s.lockExclusive d with
  | (.error fault, d) => (.error fault, s, d)
  | (.ok (), d) =>
    match s.working with
    | none => (.ok (), { s with autocommit := true }, s.setLock d none)
    | some db =>
      match d.removeFile s.journal with
      | (.error _, d) =>
        (.error .inputOutput, { s with working := none, autocommit := true }, s.setLock d none)
      | (.ok (), d) =>
        let d := d.modifyFile s.file fun f => { f with content := .database db }
        (.ok (), { s with working := none, autocommit := true }, s.setLock d none)

/-- Whether the session's path still leads to its file. -/
def inPlace (s : Session) (d : Disk) : Bool :=
  match d.locate s.path with
  | .ok (.file _ id) => id = s.file
  | _ => false

/-- Opens the journal before the first change of a transaction. -/
def openJournal (s : Session) (d : Disk) : Except Error Unit × Disk :=
  if s.working.isSome then (.ok (), d)
  else if 0 < s.pagesInUse d && !s.inPlace d then (.error .moved, d)
  else match d.openFile s.journal with
    | (.ok _, d) => (.ok (), d)
    | (.error _, d) => (.error .cannotOpen, d)

/-- Gives an empty file its first page once the session may write. -/
def firstPage (s : Session) (d : Disk) : Except Error Unit × Session × Disk :=
  match s.view d with
  | .error fault => (.error fault, s, d)
  | .ok _ =>
    if 0 < s.pagesInUse d then (.ok (), s, d)
    else match s.openJournal d with
      | (.ok (), d) => (.ok (), { s with working := some .empty }, d)
      | (.error fault, d) => (.error fault, s, d)

/-- Lets go of the lock if the session is in no transaction. -/
def relax (s : Session) (d : Disk) : Disk := if s.autocommit then s.setLock d none else d

/-- Begins to write beside the readers there may be. -/
def beginWrite (s : Session) (d : Disk) : Except Error Unit × Session × Disk :=
  match s.lockReserved d with
  | .error fault => (.error fault, s, d)
  | .ok locked => match s.firstPage locked with
    | (.ok (), s, d) => (.ok (), s, d)
    | (.error fault, s, d) => (.error fault, s, s.relax d)

/-- Whether the session has begun to write. -/
def isWriting (s : Session) (d : Disk) : Bool :=
  s.working.isSome || s.lock? d = some .reserved || s.lock? d = some .exclusive

/-- Begins to write with no reader beside, unless the session writes already. If there are readers,
a session in a transaction keeps waiting for them to leave. -/
def beginAlone (s : Session) (d : Disk) : Except Error Unit × Session × Disk :=
  if s.isWriting d then (.ok (), s, d)
  else match s.lockReserved d with
    | .error fault => (.error fault, s, d)
    | .ok locked => match s.lockExclusive locked with
      | (.error fault, waiting) => (.error fault, s, if (s.lock? d).isSome then waiting else d)
      | (.ok (), locked) => match s.firstPage locked with
        | (.ok (), s, d) => (.ok (), s, d)
        | (.error fault, s, d) => (.error fault, s, s.relax d)

/-- What a change makes of a database, unless it takes more pages and then there are too many. -/
def outcome (s : Session) (db : Database) (c : Change) : Except Error Database :=
  match c.run db with
  | .error fault => .error fault
  | .ok changed =>
    let limit := s.pageLimit.getD changed.pageCount
    if db.pageCount < changed.pageCount && limit < changed.pageCount then .error .full
    else .ok changed

/-- Ends a change that failed: outside a transaction nothing of it stays. -/
def giveUp (s : Session) (d : Disk) (fault : Error) : Except Error Unit × Session × Disk :=
  if s.autocommit then let (s, d) := s.rollBack d; (.error fault, s, d) else (.error fault, s, d)

/-- Carries out a change, and commits it if the session is in no transaction. -/
def change (s : Session) (d : Disk) (c : Change) : Except Error Unit × Session × Disk :=
  match s.beginWrite d with
  | (.error fault, s, d) => (.error fault, s, d)
  | (.ok (), s, d) =>
    match s.view d with
    | .error fault => s.giveUp d fault
    | .ok db =>
      let s : Session := { s with known := some db }
      let writes := c.writes db
      match if writes then s.openJournal d else (.ok (), d) with
      | (.error fault, d) => s.giveUp d fault
      | (.ok (), d) =>
        let holding (db : Database) : Session := if writes then { s with working := some db } else s
        match s.outcome db c with
        | .error fault => (holding db).giveUp d fault
        | .ok changed =>
          let s := { holding changed with known := some changed }
          if s.autocommit then
            match s.commit d with
            | (.ok (), s, d) => (.ok (), s, d)
            | (.error fault, s, d) => s.giveUp d fault
          else (.ok (), s, d)

/-- Looks into the database file. In a transaction the lock for reading stays. -/
def read (s : Session) (d : Disk) : Except Error Unit × Session × Disk :=
  match s.lockShared d with
  | .error fault => (.error fault, s, d)
  | .ok locked =>
    match s.view locked with
    | .error fault => (.error fault, s, d)
    | .ok db => (.ok (), { s with known := some db }, if s.autocommit then d else locked)

/-- Ends an operation whose names are not in the file as they were known, once the file has been
looked into. A lock that was taken for a change stays in a transaction. -/
def revisit (s : Session) (d : Disk) (writes : Bool) (fault : Option Error) :
    Except Error Unit × Session × Disk :=
  let begun : Except Error Unit × Session × Disk :=
    if writes then s.beginWrite d else (.ok (), s, d)
  match begun with
  | (.error barrier, s, d) => (.error barrier, s, d)
  | (.ok (), s, d) => match s.read d, fault with
    | (.ok (), s, d), none => (.ok (), s, s.relax d)
    | (.ok (), s, d), some fault => s.giveUp d fault
    | (.error barrier, s, d), _ => s.giveUp d barrier

/-- Begins a transaction, with a lock at once if the mode asks for one. -/
def begin (s : Session) (d : Disk) (mode : BeginMode) : Except Error Unit × Session × Disk :=
  let begun : Except Error Unit × Session × Disk := match mode with
    | .deferred => (.ok (), s, d)
    | .immediate => s.beginWrite d
    | .exclusive => s.beginAlone d
  match begun with
  | (.error fault, s, d) => (.error fault, s, d)
  | (.ok (), s, d) =>
    if s.autocommit then (.ok (), { s with autocommit := false }, d)
    else (.error .nestedTransaction, s, d)

/-- Attaches a database file under a name. A session that fails to read the file forgets what it
knows. -/
def attach (s : Session) (d : Disk) (file name : String) : Except Error Unit × Session × Disk :=
  if sameName name "main" || sameName name "temp" || s.attached.any (sameName name ·.1) then
    (.error (.databaseInUse name), s, d)
  else if file.isEmpty || file = ":memory:" then (.ok (), s, d)
  else match d.openFile (Path.ofString file) with
    | (.error _, d) => (.error (.cannotAttach file), { s with known := none }, d)
    | (.ok id, d) => match committed d id with
      | .error fault => (.error fault, { s with known := none }, d)
      | .ok _ => (.ok (), { s with attached := s.attached ++ [(name, id)] }, d)

/-! ## Statements -/

/-- Carries out a prepared operation. -/
def step (s : Session) (d : Disk) : Operation → Except Error Unit × Session × Disk
  | .begin mode => s.begin d mode
  | .commit => if s.autocommit then (.error .noTransactionToCommit, s, d) else s.commit d
  | .rollback =>
    if s.autocommit then (.error .noTransactionToRollBack, s, d)
    else let (s, d) := s.rollBack d; (.ok (), s, d)
  | .limitPages n => match s.read d with
    | (.ok (), s, d) => (.ok (), { s with pageLimit := some (max n (s.pagesInUse d)) }, d)
    | failed => failed
  | .attach file name => s.attach d file name
  | .query reads => if reads then s.read d else (.ok (), s, d)
  | .change c => s.change d c
  | .outdated writes fault => s.revisit d writes fault

/-- The database in which names are looked up. A session that may not read the file makes do with
what it knows. -/
def lookup (s : Session) (d : Disk) : Except Error Database :=
  if s.working.isNone && (s.lock? d).isNone && s.barred d then
    match s.known with
    | some db => .ok db
    | none => .error .locked
  else s.view d

/-- The databases in which names are looked up: the given one and those attached. -/
def schema (s : Session) (d : Disk) (db : Database) : Schema :=
  ⟨db, s.attached.map fun a =>
    (a.1, match committed d a.2 with | .ok db => db | .error _ => .empty)⟩

/-- The session after names have been looked up. -/
def knowing (s : Session) (d : Disk) : Session :=
  match s.lookup d with
  | .ok db => { s with known := some db }
  | .error _ => s

/-- The session after it has compared the tables it knows with those of the file. -/
def doubting (s : Session) (d : Disk) : Session :=
  match s.known, s.lookup d with
  | some known, .ok db => if known.sameTables db then s else { s with known := none }
  | _, _ => s

/-- Whether a table is declared first among tokens. A name is looked up then as soon as it is read,
whatever comes after it. -/
def declaresFirst (ts : List Token) : Bool :=
  let ts := skipTerminators ts
  startsWithKeyword "CREATE" ts && startsWithKeyword "TABLE" ts.tail

/-- Prepares the first statement among tokens, if there is one: its operation and the tokens after
it. Names are looked up in the given databases; the flag tells whether they were needed. -/
def prepareIn (schema : Except Error Schema) (ts : List Token) :
    Except Error (Option (Operation × List Token)) × Bool :=
  let present (name : String) : Bool := match schema with
    | .ok schema => (schema.main.table? name).isSome
    | .error _ => false
  match readFirst present ts with
  | .error fault => (.error fault, declaresFirst ts)
  | .ok none => (.ok none, false)
  | .ok (some (statement, rest)) =>
    let needed := if statement.needsSchema then schema else .ok ⟨.empty, []⟩
    (needed.bind fun schema => (prepare schema statement).map fun o => some (o, rest),
      statement.needsSchema)

/-- Prepares the first statement among tokens with the names that the file has now. -/
def prepareAnew (s : Session) (d : Disk) (ts : List Token) :
    Except Error (Option (Operation × List Token)) × Session :=
  match prepareIn ((s.lookup d).map (s.schema d)) ts with
  | (result, true) => (result, s.knowing d)
  | (result, false) => (result, s)

/-- Prepares the first statement among tokens. A session trusts the names it knows: the file is
asked only if one of them is missing or taken, or else when the statement runs. -/
def prepareFirst (s : Session) (d : Disk) (ts : List Token) :
    Except Error (Option (Operation × List Token)) × Session :=
  match if s.working.isNone then s.known else none with
  | none => s.prepareAnew d ts
  | some known =>
    match (prepareIn (.ok (s.schema d known)) ts).1 with
    | .error fault =>
      if fault.isAboutNames then (s.doubting d).prepareAnew d ts else (.error fault, s)
    | .ok none => (.ok none, s)
    | .ok (some (operation, rest)) =>
      match (s.prepareAnew d ts).1 with
      | .error fault => (.ok (some (.outdated operation.isChange (some fault), rest)), s)
      | .ok current =>
        match operation.isChange, current.any fun c => c.1.isChange with
        | true, false => (.ok (some (.outdated true none, rest)), s)
        | false, true => (.ok current, s.knowing d)
        | _, _ => (.ok current, s)

/-- A failure in a text of several statements. -/
inductive ScriptFault
  /-- A statement cannot be prepared that begins at byte `start`, just after the one before. -/
  | unprepared (cause : Error) (start : Nat)
  /-- A statement fails as it runs. -/
  | failed (cause : Error)
deriving DecidableEq

/-- The failure as reported for the whole text. -/
def ScriptFault.report (text : String) : ScriptFault → String
  | unprepared cause start => cause.reportFrom start text
  | failed cause => cause.message

/-- The byte at which the tokens `rest` begin that follow a statement among tokens: the one after
its terminator. -/
def startAfter (ts rest : List Token) (start : Nat) : Nat :=
  match (ts.take (ts.length - rest.length)).getLast? with
  | some terminator => terminator.offset + 1
  | none => start

/-- Runs the statements among tokens that begin at byte `start`, one after the other, up to the
first failure; `fuel` bounds their number. -/
def runTokens (fuel start : Nat) (ts : List Token) (s : Session) (d : Disk) :
    Except ScriptFault Unit × Session × Disk :=
  match fuel with
  | 0 => (.ok (), s, d)
  | fuel + 1 =>
    match s.prepareFirst d ts with
    | (.error fault, s) => (.error (.unprepared fault start), s, d)
    | (.ok none, s) => (.ok (), s, d)
    | (.ok (some (operation, rest)), s) =>
      match s.step d operation with
      | (.error fault, s, d) => (.error (.failed fault), s, d)
      | (.ok (), s, d) => runTokens fuel (startAfter ts rest start) rest s d

/-- Runs all statements of a text. -/
def runScript (s : Session) (d : Disk) (script : String) :
    Except ScriptFault Unit × Session × Disk :=
  let ts := scan script.toList
  runTokens (ts.length + 1) 0 ts s d

/-! ## Opening and closing -/

/-- Opens a session on the database file at a path, making the file if need be. -/
def opening (d : Disk) (p : Path) : Option Session × Disk :=
  match d.openFile p with
  | (.error _, d) => (none, d)
  | (.ok file, d) =>
    (some ⟨d.nextId, file, p, true, none, none, [], none⟩, { d with nextId := d.nextId + 1 })

/-- Closes the session. Changes that are not committed are lost. -/
def close (s : Session) (d : Disk) : Disk := (s.rollBack d).2

end Session

/-- What a reader who opens the file at a path finds: nothing, a file it cannot read as a database,
or the committed database. -/
inductive Snapshot
  | absent
  | unreadable
  | tables (db : Database)

/-- The snapshot at a path. -/
def snapshot (d : Disk) (p : Path) : Snapshot :=
  match d.find p with
  | .error _ => .absent
  | .ok (.file _ id) => match d.file? id with
    | none => .absent
    | some f =>
      if f.locks.any fun l => l.2 = .pending || l.2 = .exclusive then .unreadable
      else match Session.databaseOf f.content with
        | .ok db => .tables db
        | .error _ => .unreadable
  | .ok _ => .unreadable

end SqlReplay.Sql
