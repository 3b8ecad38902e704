import SqlReplay.Config.Basic
import SqlReplay.Replay.Connection

/-!
# Usable settings

Normalising trims names and markers and removes a slash at the end of the data directory. Settings
are usable if the database has a proper name, nothing that a run needs is empty, the weight range
is one, and the options make a catalog. The first setting that is not is reported.
-/

namespace SqlReplay

open Storage

namespace Config

/-- A directory without the slash at its end, unless the slash is all there is. -/
def normalDirectory (p : Path) : Path :=
  let shown := p.display.toList
  if 1 < (Utf8.encode shown).length && shown.getLast? = some '/' then
    ⟨Utf8.encode shown.dropLast⟩
  else p

/-- Settings with blanks around names and markers removed. -/
def normalize (c : Config) : Config where
  target := { c.target with
    dataDir := normalDirectory c.target.dataDir, database := Text.trimmed c.target.database }
  replay := { c.replay with
    opening := Text.trimmed c.replay.opening, marker := Text.trimmed c.replay.marker }
  weights := { c.weights with options := c.weights.options.map Text.trimmed }
  files := c.files

/-- The weight range of the settings. -/
def range (c : Config) : Except Error Weights.Range :=
  (Weights.Range.ofBounds c.weights.minWeight c.weights.maxWeight).mapError
    fun fault => .invalidConfig fault.message

/-- The catalog of the settings. -/
def catalog (c : Config) : Except Error Weights.Catalog :=
  (Weights.Catalog.ofList c.weights.options).mapError fun fault => .invalidConfig fault.message

/-- The log format of the settings. -/
def logFormat (c : Config) : LogFormat := .ofMarkers c.replay.opening c.replay.marker

/-- Refuses settings that cannot be used. -/
def validate (c : Config) : Except Error Unit :=
  match Replay.checkDatabaseName c.target.database with
  | .error fault => .error fault
  | .ok () =>
    if c.target.dataDir.isEmpty then .error (.invalidConfig "target.data_dir must not be empty")
    else if c.replay.opening.isEmpty then
      .error (.invalidConfig "replay.block_start must not be empty")
    else if c.replay.marker.isEmpty then
      .error (.invalidConfig "replay.comment_marker must not be empty")
    else match c.range with
      | .error fault => .error fault
      | .ok _ => match c.catalog with
        | .error fault => .error fault
        | .ok _ => .ok ()

end Config

end SqlReplay
