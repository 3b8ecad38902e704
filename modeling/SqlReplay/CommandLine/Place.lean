import SqlReplay.CommandLine.Options

/-!
# Places on a command line

Arguments are read at a place: at the top, in a group of commands, or in a command. The place says
which names lead further down and which options it takes.
-/

namespace SqlReplay.CommandLine

/-- Where on a command line an argument stands. -/
inductive Place
  | top
  | replay
  | weights
  | generate
  | showTable
  | sample
  | config
  | configPath
  | configShow
  | configValidate
  | completions
deriving DecidableEq, Inhabited

namespace Place

/-- The names that lead further down. -/
def commands : Place → List (String × Place)
  | top => [
      ("replay", replay), ("weights", weights), ("config", config), ("completions", completions)]
  | weights => [("generate", generate), ("show", showTable), ("sample", sample)]
  | config => [("path", configPath), ("show", configShow), ("validate", configValidate)]
  | _ => []

/-- The place that a name leads to. -/
def below? (place : Place) (name : String) : Option Place := place.commands.lookup name

/-- Whether the place has commands below it, and so also tells about them. -/
def isGroup (place : Place) : Bool := !place.commands.isEmpty

/-- The name that asks to be told about the commands of a group. -/
def helpName : String := "help"

/-- The keys that only this place takes. -/
def ownKeys : Place → List Key
  | replay => [.log, .database, .dataDir]
  | generate => [.output, .seed, .min, .max]
  | showTable => [.path, .top]
  | sample => [.path, .count, .seed]
  | _ => []

/-- The key with the given long name, if the place takes it. -/
def key? (place : Place) (name : String) : Option Key :=
  (Key.config :: place.ownKeys).find? fun key => key.name = name

end Place

end SqlReplay.CommandLine
