import SqlReplay.CommandLine.Place

/-!
# Reading a command line

Arguments are read from left to right, place by place. A value in an argument of its own is checked
when the next option comes or its place ends, a value in the argument of its option at once. What is
asked about the program itself ends the reading there, even before an error further on.
-/

namespace SqlReplay.CommandLine

/-- Why a command line asks for no command. -/
inductive Ending
  /-- It asks about the program itself. -/
  | help
  /-- It asks for the version. -/
  | version
  /-- It is no command line of the program. -/
  | misuse
deriving DecidableEq, Inhabited

/-- What the arguments at one place have given. -/
structure Level where
  flags : List Flag
  values : List (Key × Value)
  /-- The key whose value has not been checked, and its value if that has come. -/
  pending : Option (Key × Option String)
deriving DecidableEq, Inhabited

namespace Level

/-- Nothing given. -/
def empty : Level := ⟨[], [], none⟩

/-- Takes the value of a key. No key is given twice at a place. -/
def take (level : Level) (key : Key) (s : String) : Except Ending Level :=
  if (level.values.lookup key).isSome then .error .misuse
  else match key.read? s with
    | some value => .ok { level with values := (key, value) :: level.values }
    | none => .error .misuse

/-- Checks the value that has not been checked. -/
def settle (level : Level) : Except Ending Level :=
  match level.pending with
  | none => .ok level
  | some (_, none) => .error .misuse
  | some (key, some s) => { level with pending := none }.take key s

/-- Takes a flag. No flag is given twice at a place. -/
def takeFlag (level : Level) (flag : Flag) : Except Ending Level := do
  let level ← level.settle
  if level.flags.contains flag then .error .misuse
  else return { level with flags := flag :: level.flags }

/-- Takes a key whose value is in the same argument, or waits for its value. -/
def takeKey (level : Level) (key : Key) (attached : Option String) : Except Ending Level := do
  let level ← level.settle
  match attached with
  | some s => level.take key s
  | none => return { level with pending := some (key, none) }

/-- Ends the reading for what is asked about the program, unless a value before it is wrong. -/
def endWith (level : Level) (ending : Ending) : Except Ending Level :=
  match level.settle with
  | .error fault => .error fault
  | .ok _ => .error ending

/-- Whether the value of a key is still to come. -/
def isWaiting (level : Level) : Bool :=
  match level.pending with
  | some (_, none) => true
  | _ => false

/-- Takes an argument as the value that is still to come. -/
def takeValue (level : Level) (arg : String) : Level :=
  { level with pending := level.pending.map fun p => (p.1, some arg) }

end Level

/-- A long option: its name and the value in the same argument, if there is one. -/
def splitLong (cs : List Char) : String × Option String :=
  let name := String.ofList (cs.takeWhile (· ≠ '='))
  match cs.dropWhile (· ≠ '=') with
  | [] => (name, none)
  | _ :: value => (name, some (String.ofList value))

/-- Reads a long option without its dashes. -/
def readLong (place : Place) (level : Level) (cs : List Char) : Except Ending Level :=
  let (name, attached) := splitLong cs
  match place.key? name with
  | some key => level.takeKey key attached
  | none =>
    if attached.isSome then .error .misuse
    else match Flag.ofName? name with
      | some flag => level.takeFlag flag
      | none =>
        if name = "help" then level.endWith .help
        else if name = "version" && place = .top then level.endWith .version
        else .error .misuse

/-- Reads letters after a single dash. -/
def readLetters (place : Place) : Level → List Char → Except Ending Level
  | level, [] => .ok level
  | level, c :: cs =>
    match Flag.ofLetter? c with
    | some flag => match level.takeFlag flag with
      | .ok level => readLetters place level cs
      | .error ending => .error ending
    | none =>
      if c = 'h' then level.endWith .help
      else if c = 'V' && place = .top then level.endWith .version
      else .error .misuse

/-- Takes an argument that is no option. Only the place that needs a shell has room for one. -/
def readPlain (place : Place) (level : Level) (arg : String) : Except Ending Level := do
  let level ← level.settle
  if place = .completions then level.take .shell arg else .error .misuse

/-- Reads arguments none of which is an option. -/
def readAllPlain (place : Place) : Level → List String → Except Ending Level
  | level, [] => .ok level
  | level, arg :: args => match readPlain place level arg with
    | .ok level => readAllPlain place level args
    | .error ending => .error ending

/-- Whether an argument can only be an option or the mark after which there are none. -/
def isDashed (arg : String) : Bool := arg.toList.head? = some '-' && arg ≠ "-"

/-- Answers to `help`: the names after it must lead somewhere. -/
def helpOn (place : Place) : List String → Ending
  | [] => .help
  | name :: names => match place.below? name with
    | some place => helpOn place names
    | none => if place.isGroup && name = Place.helpName && names.isEmpty then .help else .misuse

/-- What each place on the way down has given. -/
abbrev Levels := List (Place × Level)

/-- Ends the reading at a place with what was read below it. -/
def close (place : Place) (level : Level) (below : Levels) : Except Ending Levels :=
  level.settle.map fun level => (place, level) :: below

/-- Reads the arguments at a place and below it. -/
def readArguments (place : Place) (level : Level) : List String → Except Ending Levels
  | [] => close place level []
  | arg :: args =>
    if level.isWaiting then
      if isDashed arg then .error .misuse
      else readArguments place (level.takeValue arg) args
    else match place.below? arg with
      | some next => match readArguments next .empty args with
        | .error ending => .error ending
        | .ok below => close place level below
      | none =>
        if place.isGroup && arg = Place.helpName then .error (helpOn place args)
        else if arg = "--" then
          (readAllPlain place level args).bind fun level => close place level []
        else
          let read : Except Ending Level := match arg.toList with
            | '-' :: '-' :: cs => readLong place level cs
            | '-' :: c :: cs => readLetters place level (c :: cs)
            | _ => readPlain place level arg
          match read with
          | .error ending => .error ending
          | .ok level => readArguments place level args

namespace Levels

/-- Whether a flag was given anywhere. -/
def hasFlag (levels : Levels) (flag : Flag) : Bool := levels.any fun l => l.2.flags.contains flag

/-- The value of a key. Of several places the lowest counts. -/
def value? (levels : Levels) (key : Key) : Option Value :=
  levels.reverse.findSome? fun l => l.2.values.lookup key

/-- The path given for a key. -/
def path? (levels : Levels) (key : Key) : Option Storage.Path :=
  (levels.value? key).bind Value.path?

/-- The number given for a key. -/
def number? (levels : Levels) (key : Key) : Option Nat := (levels.value? key).bind Value.number?

/-- What every command takes. -/
def common (levels : Levels) : Common where
  config := levels.path? .config
  json := levels.hasFlag .json
  noColor := levels.hasFlag .noColor
  quiet := levels.hasFlag .quiet

/-- How many entries a command gives where no number is asked for. -/
def usualCount : Nat := 10

/-- The command at the lowest place, if that is one. -/
def command? (levels : Levels) : Option Command :=
  let word32 (key : Key) : Option UInt32 := (levels.number? key).map UInt32.ofNat
  let seed : Option UInt64 := (levels.number? .seed).map UInt64.ofNat
  match levels.getLast?.map Prod.fst with
  | some .replay =>
    some (.replay (levels.path? .log) ((levels.value? .database).bind Value.text?)
      (levels.path? .dataDir))
  | some .generate => some (.generate (levels.path? .output) seed (word32 .min) (word32 .max))
  | some .showTable =>
    some (.showTable (levels.path? .path) ((levels.number? .top).getD usualCount))
  | some .sample =>
    some (.sample (levels.path? .path) ((levels.number? .count).getD usualCount) seed)
  | some .config | some .configPath => some .configPath
  | some .configShow => some .configShow
  | some .configValidate => some .configValidate
  | some .completions => ((levels.value? .shell).bind Value.shell?).map .completions
  | _ => none

end Levels

/-- What a command line asks for. -/
def Invocation.ofArguments (args : List String) : Except Ending Invocation :=
  match readArguments .top .empty args with
  | .error ending => .error ending
  | .ok levels => match levels.command? with
    | some command => .ok ⟨levels.common, command⟩
    | none => .error .misuse

end SqlReplay.CommandLine
