import SqlReplay.CommandLine.Invocation
import SqlReplay.Text.Natural

/-!
# Options

A flag stands for itself, and a key for the value that it is given. Each key has a reader; a text
that the reader refuses is misuse of the command line.
-/

namespace SqlReplay.CommandLine

open Storage

/-- An option that stands for itself. -/
inductive Flag
  | json
  | noColor
  | quiet
deriving DecidableEq, Inhabited

namespace Flag

/-- All flags. -/
def all : List Flag := [json, noColor, quiet]

/-- The long name. -/
def name : Flag → String
  | json => "json"
  | noColor => "no-color"
  | quiet => "quiet"

/-- The flag with the given long name. -/
def ofName? (s : String) : Option Flag := all.find? fun flag => flag.name = s

/-- The flag with the given letter. -/
def ofLetter? (c : Char) : Option Flag := if c = 'q' then some quiet else none

end Flag

/-- What a value is given for. -/
inductive Key
  | config
  | log
  | database
  | dataDir
  | output
  | seed
  | min
  | max
  | path
  | top
  | count
  /-- The shell is an argument of its own, without a name before it. -/
  | shell
deriving DecidableEq, Inhabited

/-- A value that has been read. -/
inductive Value
  | path (p : Path)
  | text (s : String)
  | number (n : Nat)
  | shell (s : Shell)
deriving DecidableEq, Inhabited

namespace Value

/-- The path, if the value is one. -/
def path? : Value → Option Path
  | path p => some p
  | _ => none

/-- The text, if the value is one. -/
def text? : Value → Option String
  | text s => some s
  | _ => none

/-- The number, if the value is one. -/
def number? : Value → Option Nat
  | number n => some n
  | _ => none

/-- The shell, if the value is one. -/
def shell? : Value → Option Shell
  | shell s => some s
  | _ => none

end Value

namespace Key

/-- The long name. -/
def name : Key → String
  | config => "config"
  | log => "log"
  | database => "database"
  | dataDir => "data-dir"
  | output => "output"
  | seed => "seed"
  | min => "min"
  | max => "max"
  | path => "path"
  | top => "top"
  | count => "count"
  | shell => "shell"

/-- Reads a path, which must not be empty. -/
def readPath? (s : String) : Option Value := if s = "" then none else some (.path (.ofString s))

/-- Reads a number up to and including `limit`. -/
def readNumber? (limit : Nat) (cs : List Char) : Option Value :=
  (Text.readNatural limit cs).toOption.map .number

/-- Reads a number that may have a sign and is not below zero. -/
def readSigned? (limit : Nat) : List Char → Option Value
  | '-' :: digits =>
    if !digits.isEmpty && digits.all (· = '0') then some (.number 0) else none
  | cs => readNumber? limit cs

/-- Reads the value of a key. -/
def read? (key : Key) (s : String) : Option Value :=
  match key with
  | config | log | dataDir | output | path => readPath? s
  | database => some (.text s)
  | seed | top | count => readNumber? (UInt64.size - 1) s.toList
  | min | max => readSigned? (UInt32.size - 1) s.toList
  | shell => (Shell.ofName? s).map .shell

end Key

end SqlReplay.CommandLine
