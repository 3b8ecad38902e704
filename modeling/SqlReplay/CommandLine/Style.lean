import SqlReplay.CommandLine.Invocation
import SqlReplay.Config.Load

/-!
# Ways of telling results

Results are told as lines for people or as data. A flag decides, or else a variable, or else whether
a terminal shows them. Lines for people may have colours: a flag forbids them, one variable forces
them, another forbids them, and without any of these they are for terminals only.
-/

namespace SqlReplay.CommandLine

/-- How results are told. -/
inductive Mode
  | human
  | json
deriving DecidableEq, Inhabited

namespace Mode

/-- The mode with the given name, whatever blanks around it and case of ASCII letters. -/
def ofName? (s : String) : Option Mode :=
  let name := String.ofList ((Text.trim s.toList).map Char.toLower)
  if name = "json" then some json else if name = "human" then some human else none

/-- The mode of a run. -/
def choose (asked : Bool) (env : Environment) (terminal : Bool) : Mode :=
  if asked then json
  else match (env.text? "SRH_OUTPUT_FORMAT").bind ofName? with
    | some mode => mode
    | none => if terminal then human else json

end Mode

/-- What a variable that switches something on or off says. -/
def switch? (env : Environment) (name : String) : Option Bool :=
  (env.text? name).map fun s => s ≠ "0"

/-- Whether lines for people have colours. -/
def usesColours (forbidden : Bool) (env : Environment) (terminal : Bool) : Bool :=
  if forbidden then false
  else if switch? env "CLICOLOR_FORCE" = some true then true
  else if (switch? env "NO_COLOR").isSome then false
  else terminal && (switch? env "CLICOLOR").getD true

/-- What a colour says. -/
inductive Colour
  | good
  | bad
  | mixed
  | note
deriving DecidableEq

/-- The number of the colour on terminals. -/
def Colour.code : Colour → String
  | good => "1;32"
  | bad => "1;31"
  | mixed => "1;33"
  | note => "33"

/-- How the results of a run are told. -/
structure Style where
  mode : Mode
  /-- Whether only failures are told to people. -/
  quiet : Bool
  colours : Bool
deriving DecidableEq, Inhabited

namespace Style

/-- The style of a run. -/
def choose (common : Common) (env : Environment) (terminal : Bool) : Style where
  mode := .choose common.json env terminal
  quiet := common.quiet
  colours := usesColours common.noColor env terminal

/-- A text in a colour, if there are colours. -/
def paint (style : Style) (colour : Colour) (s : String) : String :=
  if style.colours then "\x1b[" ++ colour.code ++ "m" ++ s ++ "\x1b[0m" else s

end Style

end SqlReplay.CommandLine
