import SqlReplay.Storage.Fault
import SqlReplay.Storage.Path

/-!
# Failures of a run

The ways in which loading a configuration, reading an input, replaying a log or writing a result
can fail, each with a stable code.
-/

namespace SqlReplay

open Storage

/-- A failure. -/
inductive Error
  /-- The settings cannot be used. -/
  | invalidConfig (details : String)
  /-- The configuration file that was asked for does not exist. -/
  | missingConfig (path : Path)
  /-- A source of settings cannot be read. -/
  | configParse (context details : String)
  /-- An input file does not exist. -/
  | notFound (path : Path)
  /-- A line of a weight table is no record. -/
  | weightTable (path : Path) (line : Nat) (details : String)
  /-- A value has no written form. -/
  | serialization (context details : String)
  /-- The target of a replay cannot be used. -/
  | connection (context details : String)
  /-- The target refuses a statement. -/
  | statement (position : Nat) (details : String)
  /-- An operation on files fails. -/
  | io (path : Path) (cause : Fault)
deriving DecidableEq

namespace Error

/-- The stable code of a kind of failure. -/
def code : Error → String
  | invalidConfig _ => "SRH-1001"
  | missingConfig _ => "SRH-1002"
  | configParse _ _ => "SRH-1003"
  | notFound _ => "SRH-2001"
  | weightTable _ _ _ => "SRH-2002"
  | serialization _ _ => "SRH-2101"
  | connection _ _ => "SRH-2102"
  | statement _ _ => "SRH-2103"
  | io _ _ => "SRH-3002"

/-- What happened, without the code. -/
def description : Error → String
  | invalidConfig details => "invalid configuration: " ++ details
  | missingConfig path => "missing configuration file: " ++ path.display
  | configParse context details =>
    "configuration parse failure in " ++ context ++ ": " ++ details
  | notFound path => "file not found: " ++ path.display
  | weightTable path line details =>
    "malformed weight table " ++ path.display ++ s!" at line {line}: " ++ details
  | serialization context details => "serialization failure in " ++ context ++ ": " ++ details
  | connection context details => "target connection failure in " ++ context ++ ": " ++ details
  | statement position details => s!"statement {position} failed: " ++ details
  | io path cause => "IO failure at " ++ path.display ++ ": " ++ cause.message

/-- The failure in words, its code first. -/
def message (e : Error) : String := "[" ++ e.code ++ "] " ++ e.description

/-- Whether trying again may help. -/
def isRetryable : Error → Bool
  | io _ _ => true
  | connection _ _ => true
  | _ => false

/-- Whether the failure ends a replay and is not merely recorded. -/
def isFatal : Error → Bool
  | statement _ _ => false
  | _ => true

/-- Whether the input or the settings are to blame and not the circumstances. -/
def isUserError : Error → Bool
  | invalidConfig _ => true
  | missingConfig _ => true
  | configParse _ _ => true
  | notFound _ => true
  | weightTable _ _ _ => true
  | _ => false

/-- The failure of a file operation that reads an input. A missing input is a failure of its own. -/
def ofRead (path : Path) (cause : Fault) : Error :=
  if cause = .missing then .notFound path else .io path cause

end Error

end SqlReplay
