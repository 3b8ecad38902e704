import SqlReplay.Sql.Database
import SqlReplay.Storage.Fault
import SqlReplay.Storage.Path

/-!
# A disk as a value

A tree of directories whose leaves name files. Files are kept apart from their names: a file that
is open lives on when its name is removed or given to another file, and one file may have several
names. There are no symbolic links: what is said of a path is said of disks without them. A file
holds bytes or a database, knows which sessions hold a lock on it, and may refuse to be written from
some point on.

Every operation that changes the disk may also fail because of a fault scheduled for it, in which
case it changes nothing else; without scheduled faults it fails exactly as the tree demands.
-/

namespace SqlReplay.Storage

/-- The name of a directory entry. -/
abbrev Name := Bytes

/-- A place in the tree: the names on the way to it, the innermost first. -/
abbrev Location := List Name

/-- The number of a file or a session. -/
abbrev Id := Nat

/-- What a file holds. -/
inductive Content
  | plain (bytes : Bytes)
  | database (db : Sql.Database)
deriving DecidableEq, Inhabited

/-- The bytes of a database that is only ever looked at as a database: the usual header and a byte
that no text holds. -/
def databaseBytes : Bytes := Utf8.ofString "SQLite format 3\x00" ++ [0xFF]

/-- What a file holds, as bytes. -/
def Content.bytes : Content → Bytes
  | .plain bytes => bytes
  | .database _ => databaseBytes

/-- The strength of a lock on a database file. -/
inductive LockLevel
  /-- May read. -/
  | shared
  /-- Intends to write; others may still read. -/
  | reserved
  /-- Waits for the readers to leave; nobody may begin to read. -/
  | pending
  /-- May write the file. -/
  | exclusive
deriving DecidableEq, Inhabited

/-- A file. -/
structure File where
  content : Content
  /-- The sessions that hold a lock, each with its strength. -/
  locks : List (Id × LockLevel)
  /-- How many more writes succeed, if that is limited. -/
  writesLeft : Option Nat
  /-- Whether what is written is thrown away. -/
  discards : Bool
deriving Inhabited

/-- A file with the given content that accepts all writes. -/
def File.holding (content : Content) : File := ⟨content, [], none, false⟩

/-- What a name stands for. -/
inductive Node
  | directory
  | file (id : Id)
deriving DecidableEq, Inhabited

/-- A disk. -/
structure Disk where
  nodes : List (Location × Node)
  files : List (Id × File)
  /-- The number that the next file or session gets. -/
  nextId : Id
  /-- Where relative paths begin. -/
  home : Location
  /-- For each change to come, the fault that strikes it, if any. -/
  faults : List (Option Fault)
deriving Inhabited

/-- What a path leads to. -/
inductive Spot
  | directory (place : Location)
  | file (place : Location) (id : Id)
  /-- Nothing yet, but the directory for it exists. -/
  | vacant (dir : Location) (name : Name)
deriving DecidableEq

namespace Disk

/-! ## Looking -/

/-- What stands at a place. -/
def node? (d : Disk) (place : Location) : Option Node :=
  if place.isEmpty then some .directory else d.nodes.lookup place

/-- The file with the given number. -/
def file? (d : Disk) (id : Id) : Option File := d.files.lookup id

/-- Follows names from a place. -/
def walk (d : Disk) (here : Location) : List Name → Except Fault Spot
  | [] => .ok (.directory here)
  | name :: rest =>
    if name = [Path.dot] then walk d here rest
    else if name = [Path.dot, Path.dot] then walk d here.tail rest
    else if 255 < name.length then .error .nameTooLong
    else match d.node? (name :: here) with
      | some .directory => walk d (name :: here) rest
      | some (.file id) =>
        if rest.isEmpty then .ok (.file (name :: here) id) else .error .notDirectory
      | none => if rest.isEmpty then .ok (.vacant here name) else .error .missing

/-- What a path leads to. -/
def locate (d : Disk) (p : Path) : Except Fault Spot :=
  if p.bytes.contains 0 then .error .nulInPath
  else if p.isEmpty then .error .missing
  else if 4096 ≤ p.bytes.length then .error .nameTooLong
  else d.walk (if p.isAbsolute then [] else d.home) p.components

/-- What exists at a path. A trailing slash demands a directory. -/
def find (d : Disk) (p : Path) : Except Fault Spot :=
  match d.locate p with
  | .error fault => .error fault
  | .ok (.vacant _ _) => .error .missing
  | .ok (.file place id) =>
    if p.hasTrailingSlash then .error .notDirectory else .ok (.file place id)
  | .ok (.directory place) => .ok (.directory place)

/-- Whether anything exists at a path. -/
def contains (d : Disk) (p : Path) : Bool :=
  match d.find p with
  | .ok _ => true
  | .error _ => false

/-- Whether there is a directory at a path. -/
def hasDirectory (d : Disk) (p : Path) : Bool :=
  match d.find p with
  | .ok (.directory _) => true
  | _ => false

/-- What the file at a path holds. -/
def read (d : Disk) (p : Path) : Except Fault Content :=
  match d.find p with
  | .error fault => .error fault
  | .ok (.directory _) => .error .isDirectory
  | .ok (.file _ id) => match d.file? id with
    | some file => .ok file.content
    | none => .error .missing
  | .ok (.vacant _ _) => .error .missing

/-! ## Changing -/

/-- The fault scheduled for the next change, and the disk after it. -/
def nextFault (d : Disk) : Option Fault × Disk :=
  match d.faults with
  | [] => (none, d)
  | fault :: rest => (fault, { d with faults := rest })

/-- Puts a node at a place. -/
def setNode (d : Disk) (place : Location) (node : Node) : Disk :=
  { d with nodes := (place, node) :: d.nodes.filter fun n => n.1 ≠ place }

/-- Removes the node at a place. -/
def clearNode (d : Disk) (place : Location) : Disk :=
  { d with nodes := d.nodes.filter fun n => n.1 ≠ place }

/-- Puts a file under its number. -/
def setFile (d : Disk) (id : Id) (file : File) : Disk :=
  { d with files := (id, file) :: d.files.filter fun f => f.1 ≠ id }

/-- Changes the file with a number, if there is one. -/
def modifyFile (d : Disk) (id : Id) (change : File → File) : Disk :=
  match d.file? id with
  | some file => d.setFile id (change file)
  | none => d

/-- Makes a new file at a place. -/
def addFile (d : Disk) (place : Location) (file : File) : Id × Disk :=
  let d' := { d with nextId := d.nextId + 1 }
  (d.nextId, (d'.setFile d.nextId file).setNode place (.file d.nextId))

/-- Makes a directory. -/
def makeDirectory (d : Disk) (p : Path) : Except Fault Unit × Disk :=
  let (fault, d) := d.nextFault
  match fault with
  | some fault => (.error fault, d)
  | none => match d.locate p with
    | .error fault => (.error fault, d)
    | .ok (.vacant dir name) => (.ok (), d.setNode (name :: dir) .directory)
    | .ok _ => (.error .present, d)

/-- Makes a directory and those above it that are missing; `fuel` bounds their number. -/
def makeDirectoriesWithin (p : Path) : Nat → Disk → Except Fault Unit × Disk
  | 0, d => (.error .missing, d)
  | fuel + 1, d =>
    if p.isEmpty then (.ok (), d)
    else match d.makeDirectory p with
      | (.ok (), d) => (.ok (), d)
      | (.error fault, d) =>
        if fault = .missing then
          match p.parent? with
          | none => (.error (.told "failed to create whole tree"), d)
          | some parent => match makeDirectoriesWithin parent fuel d with
            | (.error fault, d) => (.error fault, d)
            | (.ok (), d) => match d.makeDirectory p with
              | (.ok (), d) => (.ok (), d)
              | (.error fault, d) => if d.hasDirectory p then (.ok (), d) else (.error fault, d)
        else if d.hasDirectory p then (.ok (), d)
        else (.error fault, d)

/-- Makes a directory and those above it that are missing. An existing directory is no fault. -/
def makeDirectories (d : Disk) (p : Path) : Except Fault Unit × Disk :=
  makeDirectoriesWithin p (p.bytes.length + 1) d

/-- Makes the directories above a path. The failing directory is told with the fault. -/
def makeParents (d : Disk) (p : Path) : Except (Path × Fault) Unit × Disk :=
  match p.parent? with
  | none => (.ok (), d)
  | some parent => match d.makeDirectories parent with
    | (.ok (), d) => (.ok (), d)
    | (.error fault, d) => (.error (parent, fault), d)

/-- Opens a file for writing after its end, making it if need be. -/
def openFile (d : Disk) (p : Path) : Except Fault Id × Disk :=
  let (fault, d) := d.nextFault
  match fault with
  | some fault => (.error fault, d)
  | none => match d.locate p with
    | .error fault => (.error fault, d)
    | .ok (.directory _) => (.error .isDirectory, d)
    | .ok (.file _ id) => if p.hasTrailingSlash then (.error .isDirectory, d) else (.ok id, d)
    | .ok (.vacant dir name) =>
      if p.hasTrailingSlash then (.error .isDirectory, d)
      else
        let (id, d) := d.addFile (name :: dir) (.holding (.plain []))
        (.ok id, d)

/-- Opens a file for writing from scratch, making it if need be. -/
def createFile (d : Disk) (p : Path) : Except Fault Id × Disk :=
  match d.openFile p with
  | (.error fault, d) => (.error fault, d)
  | (.ok id, d) => (.ok id, d.modifyFile id fun f => { f with content := .plain [] })

/-- Writes bytes at the end of an open file. -/
def append (d : Disk) (id : Id) (bytes : Bytes) : Except Fault Unit × Disk :=
  let (fault, d) := d.nextFault
  match fault with
  | some fault => (.error fault, d)
  | none => match d.file? id with
    | none => (.error .missing, d)
    | some file =>
      if file.writesLeft = some 0 then (.error .noSpace, d)
      else
        let left := file.writesLeft.map (· - 1)
        let content :=
          if file.discards then file.content else .plain (Content.bytes file.content ++ bytes)
        (.ok (), d.setFile id { file with content := content, writesLeft := left })

/-- Makes what was written to an open file durable. -/
def sync (d : Disk) (_id : Id) : Except Fault Unit × Disk :=
  let (fault, d) := d.nextFault
  match fault with
  | some fault => (.error fault, d)
  | none => (.ok (), d)

/-- Removes the name of a file. -/
def removeFile (d : Disk) (p : Path) : Except Fault Unit × Disk :=
  let (fault, d) := d.nextFault
  match fault with
  | some fault => (.error fault, d)
  | none => match d.locate p with
    | .error fault => (.error fault, d)
    | .ok (.vacant _ _) => (.error .missing, d)
    | .ok (.directory _) => (.error .isDirectory, d)
    | .ok (.file place _) =>
      if p.hasTrailingSlash then (.error .notDirectory, d) else (.ok (), d.clearNode place)

/-- Whether the last component of a path is a name of its own. -/
def endsInName (p : Path) : Bool :=
  match p.components.getLast? with
  | none => false
  | some name => name ≠ [Path.dot] && name ≠ [Path.dot, Path.dot]

/-- Gives the file at `source` the name `target` in one step, in the place of a file that may be
there. -/
def rename (d : Disk) (source target : Path) : Except Fault Unit × Disk :=
  let (fault, d) := d.nextFault
  match fault with
  | some fault => (.error fault, d)
  | none => match d.locate source, d.locate target with
    | .error fault, _ => (.error fault, d)
    | _, .error fault => (.error fault, d)
    | .ok (.file old id), .ok spot =>
      if !endsInName target then (.error .busy, d)
      else if source.hasTrailingSlash || target.hasTrailingSlash then (.error .notDirectory, d)
      else match spot with
        | .directory _ => (.error .isDirectory, d)
        | .file new other =>
          if other = id then (.ok (), d) else (.ok (), (d.clearNode old).setNode new (.file id))
        | .vacant dir name => (.ok (), (d.clearNode old).setNode (name :: dir) (.file id))
    | .ok (.vacant _ _), _ => (.error .missing, d)
    | .ok (.directory _), _ => (.error .isDirectory, d)

/-! ## Listing and preparing a disk -/

/-- The disk with nothing but the two devices that refuse and discard all writes. -/
def bare (home : Location) : Disk :=
  let name (s : String) : Name := Utf8.ofString s
  { nodes := [
      ([name "dev"], .directory), ([name "full", name "dev"], .file 0),
      ([name "null", name "dev"], .file 1)]
    files := [(0, ⟨.plain [], [], some 0, false⟩), (1, ⟨.plain [], [], none, true⟩)]
    nextId := 2
    home := home
    faults := [] }

/-- The disk with an empty home directory beside a directory for data without a home. -/
def initial : Disk :=
  let home : Location := [Utf8.ofString "work"]
  ((bare home).setNode home .directory).setNode [Utf8.ofString "tmp"] .directory

/-- Whether bytes come first in byte order. -/
def bytesLE : Bytes → Bytes → Bool
  | [], _ => true
  | _ :: _, [] => false
  | a :: as, b :: bs => if a = b then bytesLE as bs else a < b

/-- The path of a place below another. -/
def pathBelow (base place : Location) : Bytes :=
  [Path.slash].intercalate (place.take (place.length - base.length)).reverse

/-- Everything below the home directory, directories with a slash at the end, in byte order. -/
def listing (d : Disk) : List Path :=
  let below := d.nodes.filter fun n => n.1 ≠ d.home && d.home.isSuffixOf n.1
  let paths := below.map fun n =>
    let path := pathBelow d.home n.1
    if n.2 = .directory then path ++ [Path.slash] else path
  (paths.mergeSort bytesLE).map Path.mk

/-- The disk without the directory at a path and all below it. -/
def removeTree (d : Disk) (p : Path) : Disk :=
  match d.find p with
  | .ok (.directory place) => { d with nodes := d.nodes.filter fun n => !place.isSuffixOf n.1 }
  | _ => d

/-- The disk after a whole file has been written at a path, its directories included. -/
def place (d : Disk) (p : Path) (bytes : Bytes) : Disk :=
  let d := (d.makeParents p).2
  match d.createFile p with
  | (.ok id, d) => d.modifyFile id fun f => { f with content := .plain bytes }
  | (.error _, d) => d

end Disk

end SqlReplay.Storage
