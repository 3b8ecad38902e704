import SqlReplay.Config.Check
import SqlReplay.Replay.FileTarget
import SqlReplay.Replay.Run

/-!
# Replaying as configured

The configured log is read and replayed on the configured target. A log without statements touches
nothing. Whatever happens after the target has been connected, it is closed.
-/

namespace SqlReplay.Replay

open Storage

/-- Replays the configured log on a target of the given engine. -/
def runOn (σ : Type) [Engine σ] (config : Config) (disk : Disk) : Outcome Disk Report :=
  match config.logFormat.parseFile disk config.replay.logPath with
  | .error fault => ⟨.error fault, [], disk⟩
  | .ok log =>
    if log.isEmpty then ⟨.ok .nothingToRun, [], disk⟩
    else
      let connected : Except Error Unit × Target σ :=
        Target.connect config.target.dataDir config.target.busyTimeoutMs disk
      match connected with
      | (.error fault, target) => ⟨.error fault, [], target.disk⟩
      | (.ok (), target) =>
        let outcome := (resetAndReplay config.target.database log target).finished
        ⟨outcome.result, outcome.events, outcome.state.disk⟩

/-- Replays the configured log. -/
def run (config : Config) (disk : Disk) : Outcome Disk Report := runOn Sql.Session config disk

end SqlReplay.Replay
