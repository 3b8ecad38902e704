import SqlReplay.CommandLine.Perform

/-!
# The paths of a command

Which paths a command may look at or change: first that of the configuration file, and then, once
the settings are known, all others.
-/

namespace SqlReplay.CommandLine

open Storage

/-- The path of the configuration file. -/
def Invocation.configPath (i : Invocation) (env : Environment) : Path :=
  i.common.config.getD (defaultConfigFile env.home)

/-- The paths that depend on the settings. The disk needs to hold the configuration file only. -/
def Invocation.footprint (i : Invocation) (c : Circumstances) (disk : Disk) : List Path :=
  match i.command with
  | .replay log database dataDir =>
    match settingsFor c i.common disk (replaySettings · log database dataDir) with
    | .error _ => []
    | .ok config => [config.files.eventLog, config.replay.logPath, config.target.dataDir]
      ++ Replay.databaseFiles config.target.dataDir config.target.database
  | .generate output seed min max =>
    match settingsFor c i.common disk (generateSettings · output seed min max) with
    | .error _ => []
    | .ok config => [config.files.eventLog, config.weights.outputPath,
      Weights.draftPath config.weights.outputPath]
  | .showTable path _ => (tablePath c i.common disk path).toOption.toList
  | .sample path _ _ => (tablePath c i.common disk path).toOption.toList
  | _ => []

end SqlReplay.CommandLine
