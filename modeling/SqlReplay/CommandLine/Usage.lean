import SqlReplay.CommandLine.Answer
import SqlReplay.CommandLine.Arguments

/-!
# Help

What the program says about itself: how it is called, and which version it is.
-/

namespace SqlReplay.CommandLine

/-- The version of the program. -/
def versionLine : String := "srh 0.1.0\n"

/-- How the program is called. -/
def usage : String := Answer.join [
  "srh [--config PATH] [--json] [--no-color] [-q | --quiet] COMMAND",
  "",
  "Commands:",
  "  replay [--log PATH] [--database NAME] [--data-dir DIR]",
  "      replay a log on a fresh database",
  "  weights generate [--output PATH] [--seed N] [--min N] [--max N]",
  "      write a weight table of all pairs of options",
  "  weights show [--path PATH] [--top N]",
  "      show the heaviest pairs of a table",
  "  weights sample [--path PATH] [--count N] [--seed N]",
  "      draw pairs in proportion to their weights",
  "  config [path | show | validate]",
  "      tell where the settings are, what they are, or whether they can be used",
  "  completions bash | elvish | fish | powershell | zsh",
  "      write completions for a shell"]

/-- The text for a command line that asks for no command. -/
def Ending.text : Ending → String
  | help => usage
  | version => versionLine
  | misuse => "error: the command line was not understood\n\n" ++ usage

/-- The exit code for a command line that asks for no command. -/
def Ending.exitCode : Ending → Nat
  | help => 0
  | version => 0
  | misuse => 2

end SqlReplay.CommandLine
