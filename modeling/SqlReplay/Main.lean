import SqlReplay.CommandLine.Ended
import SqlReplay.CommandLine.Footprint
import SqlReplay.CommandLine.Usage
import SqlReplay.Event.Moment
import SqlReplay.Sql.Image
import Std.Time.DateTime.Timestamp

/-!
# The program

The files that a command may need are copied from the machine into a disk, the command runs on the
disk, and what it changed there is written back.
-/

namespace SqlReplay.Program

open Storage CommandLine

/-! ## From the machine -/

/-- What stands at a path of the machine. -/
inductive Sight
  | nothing
  | directory
  | file (bytes : Bytes)

/-- Looks at a path of the machine. -/
def look (path : String) : IO Sight := do
  try
    return .file (← IO.FS.readBinFile path).toList
  catch fault => match fault with
    | .noFileOrDirectory .. => return .nothing
    | .inappropriateType .. => return .directory
    | fault => throw fault

/-- The path of a place, if all names on the way to it are texts. -/
def placePath? (place : Location) : Option String :=
  Utf8.decode? (Path.slash :: [Path.slash].intercalate place.reverse)

/-- The place of a directory of the machine. -/
def placeOf (path : String) : Location := (Path.ofString path).components.reverse

/-- What a file of the machine holds. -/
def contentOf (bytes : Bytes) : Content :=
  match Sql.Database.ofFileBytes? bytes with
  | some db => .database db
  | none => .plain bytes

/-- Copies what stands on the way along names from a place. -/
def copyAlong (here : Location) : List Name → Disk → IO Disk
  | [], disk => return disk
  | name :: rest, disk => do
    if name = [Path.dot] then copyAlong here rest disk
    else if name = [Path.dot, Path.dot] then copyAlong here.tail rest disk
    else
      let place := name :: here
      match disk.node? place, placePath? place with
      | some .directory, _ => copyAlong place rest disk
      | some (.file _), _ => return disk
      | none, none => return disk
      | none, some path => match ← look path with
        | .nothing => return disk
        | .directory => copyAlong place rest (disk.setNode place .directory)
        | .file bytes => return (disk.addFile place (.holding (contentOf bytes))).2

/-- Copies what stands at paths, and on the way to them. -/
def copyAll (paths : List Path) (disk : Disk) : IO Disk :=
  paths.foldlM (fun disk p =>
    copyAlong (if p.isAbsolute then [] else disk.home) p.components disk) disk

/-! ## Back to the machine -/

/-- The bytes of a file on the machine. -/
def fileBytes : Content → Bytes
  | .plain bytes => bytes
  | .database db => db.fileBytes

/-- Writes back what stands at a place. -/
def writeNode (before after : Disk) (place : Location) (node : Node) : IO Unit := do
  let some path := placePath? place | return
  match node with
  | .directory => if before.node? place ≠ some .directory then IO.FS.createDirAll path
  | .file id =>
    let some file := after.file? id | return
    let known := before.node? place = some (.file id) ∧
      (before.file? id).map File.content = some file.content
    unless known || file.discards || file.writesLeft.isSome do
      IO.FS.writeBinFile path ⟨(fileBytes file.content).toArray⟩

/-- Writes back everything in which two disks differ. -/
def writeBack (before after : Disk) : IO Unit := do
  for (place, node) in before.nodes do
    if node ≠ .directory && (after.node? place).isNone then
      if let some path := placePath? place then IO.FS.removeFile path
  for (place, node) in after.nodes do
    if node = .directory then writeNode before after place node
  for (place, node) in after.nodes do
    if node ≠ .directory then writeNode before after place node

/-! ## Running -/

/-- The variables that count. -/
def variableNames : List String := [
  "HOME", "SRH_TARGET_DATA_DIR", "SRH_TARGET_DATABASE", "SRH_TARGET_BUSY_TIMEOUT_MS",
  "SRH_REPLAY_LOG_PATH", "SRH_WEIGHTS_OUTPUT_PATH", "SRH_WEIGHTS_MIN_WEIGHT",
  "SRH_WEIGHTS_MAX_WEIGHT", "SRH_WEIGHTS_SEED", "SRH_EVENT_LOG", "SRH_OUTPUT_FORMAT",
  "CLICOLOR", "CLICOLOR_FORCE", "NO_COLOR"]

/-- What surrounds the run. -/
def circumstances : IO Circumstances := do
  let assignments ← variableNames.filterMapM fun name => do
    return (← IO.getEnv name).map fun s => (name, Utf8.ofString s)
  let seed := (← IO.getRandomBytes 8).toList.foldl (fun n b => n * 256 + b.toUInt64) 0
  return {
    environment := ⟨assignments⟩
    terminal := ← (← IO.getStdout).isTty
    outputFault := none
    errorsAccept := true
    words := .ofSeed seed }

/-- The time of the clock on the wall. -/
def now : IO Moment := do
  let stamp ← Std.Time.Timestamp.now
  return ⟨stamp.toMillisecondsSinceUnixEpoch.toInt.toNat⟩

/-- Runs a command on the machine. -/
def runCommand (i : Invocation) : IO UInt32 := do
  let errors ← IO.getStderr
  let c ← circumstances
  let home := placeOf (toString (← IO.currentDir))
  let disk ← copyAll [i.configPath c.environment] (Disk.bare home)
  let disk ← copyAll (i.footprint c disk) disk
  let start ← IO.monoMsNow
  let time ← now
  let performance ← IO.lazyPure fun _ => i.perform c disk
  let clock : Clock := ⟨time.written, (← IO.monoMsNow) - start⟩
  let ended := performance.ended c (c.style i.common) clock
  writeBack disk ended.disk
  errors.putStr ended.errors
  (← IO.getStdout).putStr ended.output
  return UInt32.ofNat ended.exitCode

end SqlReplay.Program

open SqlReplay SqlReplay.CommandLine in
/-- Reads the command line and runs what it asks for. -/
def main (args : List String) : IO UInt32 := do
  match Invocation.ofArguments args with
  | .ok invocation =>
    try SqlReplay.Program.runCommand invocation
    catch fault =>
      (← IO.getStderr).putStr ("srh: " ++ toString fault ++ "\n")
      return 2
  | .error ending =>
    let stream ← if ending = .misuse then IO.getStderr else IO.getStdout
    stream.putStr ending.text
    return UInt32.ofNat ending.exitCode
