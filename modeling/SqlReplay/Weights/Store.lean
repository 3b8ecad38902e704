import SqlReplay.Error
import SqlReplay.Storage.Buffered
import SqlReplay.Weights.Record

/-!
# Weight tables on disk

A table is written beside its destination and then put in place in one step, so at every moment the
destination holds either what it held before or the whole new table.
-/

namespace SqlReplay.Weights

open Storage

/-- The path at which a table is written before it is put in place. -/
def draftPath (path : Path) : Path := path.withSuffix ".tmp"

namespace Table

/-- The pieces in which a table is written: each record and each end of a line. -/
def pieces (table : Table) : List Bytes :=
  table.entries.flatMap fun e => [Utf8.encode e.record, Utf8.encode ['\n']]

/-- Writes a table to a file of its own and makes it durable. -/
def writeTo (table : Table) (d : Disk) (path : Path) : Except Error Unit × Disk :=
  match d.createFile path with
  | (.error fault, d) => (.error (.io path fault), d)
  | (.ok id, d) => match Buffered.writeAll id table.pieces d with
    | (.error fault, d) => (.error (.io path fault), d)
    | (.ok (), d) => match d.sync id with
      | (.error fault, d) => (.error (.io path fault), d)
      | (.ok (), d) => (.ok (), d)

/-- Writes the draft of a table and puts it in place. -/
def publish (table : Table) (d : Disk) (path : Path) : Except Error Unit × Disk :=
  match table.writeTo d (draftPath path) with
  | (.error fault, d) => (.error fault, d)
  | (.ok (), d) => match d.rename (draftPath path) path with
    | (.error fault, d) => (.error (.io path fault), d)
    | (.ok (), d) => (.ok (), d)

/-- Writes a table to a path, whatever is there. If that fails the draft is removed. -/
def persist (table : Table) (d : Disk) (path : Path) : Except Error Unit × Disk :=
  match d.makeParents path with
  | (.error (parent, fault), d) => (.error (.io parent fault), d)
  | (.ok (), d) => match table.publish d path with
    | (.error fault, d) => (.error fault, (d.removeFile (draftPath path)).2)
    | (.ok (), d) => (.ok (), d)

/-- Reads a table from its text; `origin` is the path that failures name. -/
def ofText (origin : Path) (text : List Char) : Except Error Table :=
  (parse text).mapError fun fault => .weightTable origin fault.line fault.cause.message

/-- Reads the table at a path. -/
def load (d : Disk) (path : Path) : Except Error Table :=
  match d.read path with
  | .error fault => .error (.ofRead path fault)
  | .ok content => match Utf8.decode content.bytes with
    | .error _ => .error (.io path .notText)
    | .ok text => ofText path text

end Table

end SqlReplay.Weights
