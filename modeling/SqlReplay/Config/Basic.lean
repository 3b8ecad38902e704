import SqlReplay.Log.ReplayLog
import SqlReplay.Storage.Path
import SqlReplay.Weights.Range
import SqlReplay.Weights.ServerOptions

/-!
# Settings

The settings of a run and their defaults. Paths for which nothing is configured lie under the home
directory.
-/

namespace SqlReplay

open Storage

/-- Where replays run. -/
structure TargetSettings where
  /-- The directory of the database files. -/
  dataDir : Path
  database : String
  busyTimeoutMs : UInt64
deriving DecidableEq, Inhabited

/-- What is replayed. -/
structure ReplaySettings where
  logPath : Path
  /-- The phrase that opens the block of statements. -/
  opening : String
  /-- What comment lines begin with. -/
  marker : String
deriving DecidableEq, Inhabited

/-- How weight tables are made. -/
structure WeightSettings where
  outputPath : Path
  minWeight : UInt32
  maxWeight : UInt32
  seed : Option UInt64
  options : List String
deriving DecidableEq, Inhabited

/-- Where the program keeps its own files. -/
structure FileSettings where
  configFile : Path
  eventLog : Path
deriving DecidableEq, Inhabited

/-- The settings of a run. -/
structure Config where
  target : TargetSettings
  replay : ReplaySettings
  weights : WeightSettings
  files : FileSettings
deriving DecidableEq, Inhabited

/-- The directory for data of the program. -/
def dataHome (home : Path) : Path := ((home.child ".local").child "share").child "srh"

/-- The configuration file where no other is named. -/
def defaultConfigFile (home : Path) : Path :=
  ((home.child ".config").child "srh").child "config.toml"

/-- The settings where nothing is configured. -/
def Config.default (home : Path) : Config where
  target := ⟨(dataHome home).child "targets", "database0", 5000⟩
  replay := ⟨.ofString "database0.log", LogFormat.defaultOpening, LogFormat.defaultMarker⟩
  weights := ⟨.ofString "mysql_config_weights.txt", Weights.Range.defaultMin,
    Weights.Range.defaultMax, none, Weights.serverOptionNames⟩
  files := ⟨defaultConfigFile home, (dataHome home).child "events.jsonl"⟩

end SqlReplay
