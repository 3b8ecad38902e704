import SqlReplay.Storage.Disk

/-!
# Buffered writing

Bytes for an open file are gathered in a buffer and leave it whole: when the next bytes do not fit,
and when the buffer is drained. Bytes that fit into no buffer go straight to the file.
-/

namespace SqlReplay.Storage.Buffered

/-- How many bytes a buffer holds. -/
def capacity : Nat := 8192

/-- Writes the buffer to the file. If that fails the buffer keeps its bytes. -/
def drain (id : Id) (buffer : Bytes) (d : Disk) : Except Fault Unit × Bytes × Disk :=
  if buffer.isEmpty then (.ok (), [], d)
  else match d.append id buffer with
    | (.ok (), d) => (.ok (), [], d)
    | (.error fault, d) => (.error fault, buffer, d)

/-- Puts bytes into the buffer or, if they are too many for any buffer, into the file, after making
room for them. -/
def put (id : Id) (buffer bytes : Bytes) (d : Disk) : Except Fault Unit × Bytes × Disk :=
  let spare := capacity - buffer.length
  if bytes.length < spare then (.ok (), buffer ++ bytes, d)
  else
    let (result, buffer, d) :=
      if spare < bytes.length then drain id buffer d else (.ok (), buffer, d)
    match result with
    | .error fault => (.error fault, buffer, d)
    | .ok () =>
      if capacity ≤ bytes.length then
        match d.append id bytes with
        | (.ok (), d) => (.ok (), buffer, d)
        | (.error fault, d) => (.error fault, buffer, d)
      else (.ok (), buffer ++ bytes, d)

/-- Puts pieces into the buffer in order, up to the first that fails. -/
def putAll (id : Id) : List Bytes → Bytes → Disk → Except Fault Unit × Bytes × Disk
  | [], buffer, d => (.ok (), buffer, d)
  | piece :: rest, buffer, d =>
    match put id buffer piece d with
    | (.error fault, buffer, d) => (.error fault, buffer, d)
    | (.ok (), buffer, d) => putAll id rest buffer d

/-- Puts pieces into an empty buffer and drains it. -/
def pour (id : Id) (pieces : List Bytes) (d : Disk) : Except Fault Unit × Bytes × Disk :=
  match putAll id pieces [] d with
  | (.error fault, buffer, d) => (.error fault, buffer, d)
  | (.ok (), buffer, d) => drain id buffer d

/-- Writes pieces through a buffer of their own. A buffer that is given up after a failure is
drained once more, whatever comes of it. -/
def writeAll (id : Id) (pieces : List Bytes) (d : Disk) : Except Fault Unit × Disk :=
  match pour id pieces d with
  | (.error fault, buffer, d) => (.error fault, (drain id buffer d).2.2)
  | (.ok (), _, d) => (.ok (), d)

end SqlReplay.Storage.Buffered
