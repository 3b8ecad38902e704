import SqlReplay.Replay.Connection
import SqlReplay.Storage.Disk

/-!
# Database engines

What a target asks of the engine that keeps its databases in files.  The engine is a library of
others: it is a parameter here, with what is known of it stated where it is used.  A session of an
engine is a state that acts on the disk; whatever else an engine goes by, such as the time or what
it remembers of a file, is part of that state.
-/

namespace SqlReplay.Replay

open Storage

/-! ## Failures -/

/-- The kinds of failure that are told apart. -/
inductive EngineCode
  | cannotOpen
  | inputOutput
  | corrupt
  | notADatabase
  | full
  | outOfMemory
  | internal
  | other
deriving DecidableEq, Inhabited

/-- Whether a session cannot be trusted after a failure. -/
def EngineCode.isFatal : EngineCode → Bool
  | other => false
  | _ => true

/-- A failure of an engine in words, and its kind where it is more than a fault at some place of a
text. -/
structure EngineFault where
  code : Option EngineCode
  text : String
deriving DecidableEq, Inhabited

/-- The failure of a statement that is due to one of the engine. -/
def EngineFault.execFault (f : EngineFault) : ExecFault :=
  if f.code.any EngineCode.isFatal then .fatal f.text else .rejected f.text

/-! ## Sessions -/

/-- The sessions of an engine.  Every action gives its outcome, the session and the disk after
it. -/
class Engine (σ : Type) where
  /-- A statement that is ready to run. -/
  Prepared : Type
  /-- A text of statements of which some have been prepared. -/
  Batch : Type
  /-- Opens a session on the database file at a path, which is made if there is none. -/
  opening : Path → Disk → Except EngineFault σ × Disk
  /-- Sets for how many milliseconds a file is waited for that others have locked. -/
  wait : UInt64 → σ → Disk → Except EngineFault Unit × σ × Disk
  /-- Runs all statements of a text. -/
  perform : String → σ → Disk → Except EngineFault Unit × σ × Disk
  /-- Whether no transaction is open. -/
  autocommits : σ → Bool
  /-- A text of which no statement has been prepared. -/
  batch : String → Batch
  /-- Prepares the next statement of a text, if there is one more. -/
  next : Batch → σ → Disk → Except EngineFault (Option (Prepared × Batch)) × σ × Disk
  /-- Runs a statement and drops its rows. -/
  run : Prepared → σ → Disk → Except EngineFault Unit × σ × Disk
  /-- Ends a session.  It is given up also if that fails. -/
  close : σ → Disk → Except EngineFault Unit × Disk

end SqlReplay.Replay
