import SqlReplay.Replay.Engine

/-!
# Targets in files

A target that keeps each database in a file of its own in one directory. To start a database over
is to remove its file with the files that may stand beside it and to open a new one in a single
transaction, so nothing lasts until it is committed.
-/

namespace SqlReplay.Replay

open Storage

/-- A target with the disk its files are on. -/
structure Target (σ : Type) where
  dataDir : Path
  busyTimeoutMs : UInt64
  /-- Whether the target has not been closed. -/
  isOpen : Bool
  /-- The session on the file of a database. -/
  handle? : Option σ
  /-- The name of the selected database. -/
  database? : Option String
  disk : Disk
deriving Inhabited

/-- The path of the file of a database. -/
def databaseFile (dataDir : Path) (database : String) : Path :=
  dataDir.child (database ++ ".sqlite3")

/-- The endings of the files that may stand beside a database file. -/
def sidecarSuffixes : List String := ["-wal", "-shm", "-journal"]

/-- A database file and the files that may stand beside it. -/
def databaseFiles (dataDir : Path) (database : String) : List Path :=
  let path := databaseFile dataDir database
  path :: sidecarSuffixes.map path.withSuffix

/-- What is said of a line with more than one statement. -/
def severalStatements : String := "multiple statements on one line"

namespace Target

variable {σ : Type} [Engine σ]

/-- A target with files under a directory, which is made if need be. -/
def connect (dataDir : Path) (busyTimeoutMs : UInt64) (disk : Disk) :
    Except Error Unit × Target σ :=
  match disk.makeDirectories dataDir with
  | (.ok (), disk) => (.ok (), ⟨dataDir, busyTimeoutMs, true, none, none, disk⟩)
  | (.error fault, disk) =>
    (.error (.connection "connect"
      ("cannot create data dir " ++ dataDir.display ++ ": " ++ fault.message)),
      ⟨dataDir, busyTimeoutMs, false, none, none, disk⟩)

/-! ## Statements -/

/-- Runs one line in a session.  The line is refused as a whole if anything but the end of its text
comes after its first statement. -/
def runLine (line : String) (s : σ) (d : Disk) : Except ExecFault Unit × σ × Disk :=
  match Engine.next (Engine.batch line) s d with
  | (.error fault, s, d) => (.error fault.execFault, s, d)
  | (.ok none, s, d) => (.ok (), s, d)
  | (.ok (some (statement, rest)), s, d) =>
    match Engine.next rest s d with
    | (.ok none, s, d) =>
      let (result, s, d) := Engine.run statement s d
      (result.mapError EngineFault.execFault, s, d)
    | (_, s, d) => (.error (.rejected severalStatements), s, d)

/-- Runs one line. -/
def execute (line : String) (t : Target σ) : Except ExecFault Unit × Target σ :=
  if !t.isOpen then (.error (.fatal "connection is closed"), t)
  else match t.handle? with
    | none => (.error (.rejected "no database selected"), t)
    | some s =>
      let (result, s, d) := runLine line s t.disk
      (result, { t with handle? := some s, disk := d })

/-- Commits the transaction, unless the log has ended it already. -/
def commit (t : Target σ) : Except Error Unit × Target σ :=
  if !t.isOpen then (.error (.connection "commit" "connection is closed"), t)
  else match t.handle? with
    | none => (.ok (), t)
    | some s =>
      if Engine.autocommits s then (.ok (), t)
      else
        let (result, s, d) := Engine.perform "COMMIT" s t.disk
        (result.mapError fun fault => .connection "commit" fault.text,
          { t with handle? := some s, disk := d })

/-! ## Letting go -/

/-- Lets go of the selected database; changes that are not committed are lost. -/
def deselect (t : Target σ) : Except Error Unit × Target σ :=
  match t.handle? with
  | none => (.ok (), { t with database? := none })
  | some s =>
    let (result, d) := Engine.close s t.disk
    (result.mapError fun fault => .connection "close" fault.text,
      { t with handle? := none, database? := none, disk := d })

/-- Closes the target. -/
def close (t : Target σ) : Except Error Unit × Target σ := deselect { t with isOpen := false }

/-! ## Starting over -/

/-- Removes files that may not exist, up to the first that cannot be removed. -/
def dropFiles : List Path → Disk → Except Error Unit × Disk
  | [], d => (.ok (), d)
  | path :: rest, d =>
    match d.removeFile path with
    | (.ok (), d) => dropFiles rest d
    | (.error fault, d) =>
      if fault = .missing then dropFiles rest d
      else (.error (.connection "reset_database"
        ("cannot drop " ++ path.display ++ ": " ++ fault.message)), d)

/-- Prepares a session that has been opened: how long it waits for others is set, and the
transaction begins. -/
def enter (busyTimeoutMs : UInt64) (s : σ) (d : Disk) : Except EngineFault Unit × σ × Disk :=
  match Engine.wait busyTimeoutMs s d with
  | (.ok (), s, d) => Engine.perform "BEGIN" s d
  | failed => failed

/-- Opens the file of a database in a new transaction.  A session is closed in which that fails. -/
def openDatabase (busyTimeoutMs : UInt64) (path : Path) (d : Disk) : Except Error σ × Disk :=
  match Engine.opening path d with
  | (.error fault, d) => (.error (.connection "reset_database" fault.text), d)
  | (.ok s, d) =>
    match enter busyTimeoutMs s d with
    | (.ok (), s, d) => (.ok s, d)
    | (.error fault, s, d) =>
      (.error (.connection "reset_database" fault.text), (Engine.close s d).2)

/-- Selects a database whose file is opened in a new transaction. -/
def select (name : String) (t : Target σ) : Except Error Unit × Target σ :=
  match openDatabase t.busyTimeoutMs (databaseFile t.dataDir name) t.disk with
  | (.error fault, d) => (.error fault, { t with disk := d })
  | (.ok s, d) => (.ok (), { t with handle? := some s, database? := some name, disk := d })

/-- Removes the files of a database and selects it anew. -/
def renew (name : String) (t : Target σ) : Except Error Unit × Target σ :=
  match dropFiles (databaseFiles t.dataDir name) t.disk with
  | (.error fault, d) => (.error fault, { t with disk := d })
  | (.ok (), d) => select name { t with disk := d }

/-- Starts a database over. -/
def reset (name : String) (t : Target σ) : Except Error Unit × Target σ :=
  match checkDatabaseName name with
  | .error fault => (.error fault, t)
  | .ok () =>
    if !t.isOpen then (.error (.connection "reset_database" "connection is closed"), t)
    else match t.deselect with
      | (.error fault, t) => (.error fault, t)
      | (.ok (), t) => renew name t

instance : Connection (Target σ) where
  execute := execute
  commit := commit
  close := close
  isOpen := isOpen
  reset := reset

end Target

end SqlReplay.Replay
