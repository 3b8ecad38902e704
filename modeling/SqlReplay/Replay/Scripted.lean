import SqlReplay.Replay.Connection
import SqlReplay.Text.Split

/-!
# Scripted connections

A connection that does as it is told: it refuses the statements that rules name and remembers what
was asked of it. Rules and faults are fixed; what changes is the record and whether it is open.
-/

namespace SqlReplay.Replay

/-- What to do with statements that contain a text. -/
structure Rule where
  pattern : String
  message : String
  /-- Whether such a statement loses the session. -/
  fatal : Bool
deriving DecidableEq, Inhabited

/-- A scripted connection. -/
structure Scripted where
  rules : List Rule
  commitFault : Option String
  closeFault : Option String
  /-- The statements asked for while the connection was open, in order. -/
  executed : List String
  commits : Nat
  closes : Nat
  closed : Bool
deriving Inhabited

namespace Scripted

/-- A fresh connection. -/
def ofRules (rules : List Rule) (commitFault closeFault : Option String) : Scripted :=
  ⟨rules, commitFault, closeFault, [], 0, 0, false⟩

/-- The first rule that a statement matches. -/
def rule? (s : Scripted) (sql : String) : Option Rule :=
  s.rules.find? fun r => Text.occursIn r.pattern.toList sql.toList

/-- Runs a statement by the first rule it matches. -/
def execute (sql : String) (s : Scripted) : Except ExecFault Unit × Scripted :=
  if s.closed then (.error (.fatal "connection closed"), s)
  else
    let s := { s with executed := s.executed ++ [sql] }
    match s.rule? sql with
    | none => (.ok (), s)
    | some r =>
      if r.fatal then (.error (.fatal r.message), { s with closed := true })
      else (.error (.rejected r.message), s)

/-- Counts a commit, unless commits fail. -/
def commit (s : Scripted) : Except Error Unit × Scripted :=
  match s.commitFault with
  | some text => (.error (.connection "commit" text), s)
  | none => (.ok (), { s with commits := s.commits + 1 })

/-- Counts a close, which takes effect also if it fails. -/
def close (s : Scripted) : Except Error Unit × Scripted :=
  let closed := { s with closes := s.closes + 1, closed := true }
  match s.closeFault with
  | some text => (.error (.connection "close" text), closed)
  | none => (.ok (), closed)

instance : Connection Scripted where
  execute := execute
  commit := commit
  close := close
  isOpen s := !s.closed
  reset := Connection.serverReset execute

end Scripted

end SqlReplay.Replay
