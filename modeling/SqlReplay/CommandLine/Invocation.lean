import SqlReplay.Storage.Path

/-!
# Invocations

What a command line asks for: one command with its own settings, and the settings that every
command takes.
-/

namespace SqlReplay.CommandLine

open Storage

/-- A shell for which completions can be written. -/
inductive Shell
  | bash
  | elvish
  | fish
  | powershell
  | zsh
deriving DecidableEq, Inhabited

namespace Shell

/-- All shells. -/
def all : List Shell := [bash, elvish, fish, powershell, zsh]

/-- The name on a command line. -/
def name : Shell → String
  | bash => "bash"
  | elvish => "elvish"
  | fish => "fish"
  | powershell => "powershell"
  | zsh => "zsh"

/-- The shell with the given name. -/
def ofName? (s : String) : Option Shell := all.find? fun shell => shell.name = s

end Shell

/-- What every command takes. -/
structure Common where
  /-- The configuration file to read in the place of the usual one. -/
  config : Option Path
  /-- Whether results are data whatever else is said. -/
  json : Bool
  /-- Whether colours are forbidden. -/
  noColor : Bool
  /-- Whether only failures are told. -/
  quiet : Bool
deriving DecidableEq, Inhabited

/-- A command. A setting that is given hides the configured one. -/
inductive Command
  /-- Replays a log on a fresh database. -/
  | replay (log : Option Path) (database : Option String) (dataDir : Option Path)
  /-- Writes a weight table of all pairs. -/
  | generate (output : Option Path) (seed : Option UInt64) (min max : Option UInt32)
  /-- Shows the heaviest entries of a table. -/
  | showTable (path : Option Path) (top : Nat)
  /-- Draws entries of a table in proportion to their weights. -/
  | sample (path : Option Path) (count : Nat) (seed : Option UInt64)
  /-- Tells where the configuration file is. -/
  | configPath
  /-- Shows the settings that count. -/
  | configShow
  /-- Checks the settings. -/
  | configValidate
  /-- Writes completions for a shell. -/
  | completions (shell : Shell)
deriving DecidableEq, Inhabited

/-- What a command line asks for. -/
structure Invocation where
  common : Common
  command : Command
deriving DecidableEq, Inhabited

end SqlReplay.CommandLine
