import SqlReplay.Config.Document
import SqlReplay.Error

/-!
# Problems of commands

Why a command does not end well. The exit code tells the kind of problem: the input or the settings,
the circumstances, a result without a written form, or statements that were refused.
-/

namespace SqlReplay.CommandLine

open Storage

/-- Why a command does not end well. -/
inductive Problem
  | failed (cause : Error)
  /-- The settings have no form as a configuration file. -/
  | unprintableSettings (cause : Config.FileFault)
  /-- The result has no form as data, or not all of it could be written. -/
  | unserializable (details : String)
  /-- The result could not be written. -/
  | unwritable (cause : Fault)
  /-- A replay completed, but the target refused statements. -/
  | refused (failed attempted : Nat)
  /-- Lines for people could not be written: the program panics. -/
  | unprintable (cause : Fault)
  /-- It could not be told that no home directory is known: the program panics. -/
  | unwarned
deriving DecidableEq

/-- The exit code of a program that panics: one of its own if the stack is unwound, and that of the
signal, as shells tell it, if the program is aborted. -/
def panicCode (aborts : Bool) : Nat := if aborts then 134 else 101

namespace Problem

/-- Whether the program panics. -/
def panics : Problem → Bool
  | unprintable _ => true
  | unwarned => true
  | _ => false

/-- The exit code, of a program that unwinds its stack when it panics. -/
def exitCode : Problem → Nat
  | failed cause => if cause.isUserError then 1 else 2
  | unprintableSettings _ => 2
  | unserializable _ => 3
  | unwritable _ => 2
  | refused _ _ => 4
  | unprintable _ => panicCode false
  | unwarned => panicCode false

/-- The exit code. -/
def exitCodeIn (aborts : Bool) (problem : Problem) : Nat :=
  if problem.panics then panicCode aborts else problem.exitCode

/-- The problem in words. -/
def message : Problem → String
  | failed cause => cause.message
  | unprintableSettings cause => "serialize config: " ++ cause.message
  | unserializable details => "failed to serialize output: " ++ details
  | unwritable cause => "failed to write output: " ++ cause.message
  | refused count attempted => s!"{count} of {attempted} statements failed"
  | unprintable cause => "failed printing to stdout: " ++ cause.message
  | unwarned => "failed printing to stderr"

end Problem

end SqlReplay.CommandLine
