import SqlReplay.Proofs.Replay.Simulation
import SqlReplay.Proofs.Sql.Acting
import SqlReplay.Proofs.Sql.Rewording
import SqlReplay.Replay.Configured

/-!
# Replays do not read other texts

A replay reads one text, its log.  On disks that are the same but for other texts it comes out the
same, and leaves disks that are the same but for these texts (`run_reworded`).
-/

namespace SqlReplay.Replay

open Storage Disk

variable {ids : Set Id} {d e : Disk}

namespace FileTarget

/-- Whether two targets do the same, on disks that are the same but for some texts. -/
inductive Reworded (ids : Set Id) : FileTarget → FileTarget → Prop
  | mk (t : FileTarget) {e : Disk} (h : Disk.Reworded ids t.disk e) :
      Reworded ids t { t with disk := e }

/-- Whether the same came of an action of two targets, which then do the same. -/
inductive Matches {α : Type} (ids : Set Id) : α × FileTarget → α × FileTarget → Prop
  | mk (a : α) {t u : FileTarget} (h : Reworded ids t u) : Matches ids (a, t) (a, u)

variable {t u : FileTarget}

@[elab_as_elim]
theorem Matches.elim {α : Type} {motive : α × FileTarget → α × FileTarget → Prop}
    {x y : α × FileTarget} (h : Matches ids x y)
    (mk : ∀ a t u, Reworded ids t u → motive (a, t) (a, u)) : motive x y := by
  obtain ⟨a, h⟩ := h
  exact mk a _ _ h

theorem connect_reworded (dataDir : Path) (busyTimeoutMs : UInt64) (h : Disk.Reworded ids d e) :
    Matches ids (Target.connect dataDir busyTimeoutMs d)
      (Target.connect dataDir busyTimeoutMs e) := by
  unfold Target.connect
  refine (h.makeDirectories dataDir).elim ?_
  rintro (fault | _) d _ h
  · exact .mk _ (.mk ⟨dataDir, busyTimeoutMs, false, none, none, d⟩ h)
  · exact .mk _ (.mk ⟨dataDir, busyTimeoutMs, true, none, none, d⟩ h)

theorem runLine_reworded (line : String) (s : Sql.Session) (h : Disk.Reworded ids d e) :
    MatchesWith ids (Target.runLine line s d) (Target.runLine line s e) := by
  simp only [Sql.Session.runLine_eq, s.prepareFirst_reworded h]
  split
  · exact .mk _ _ h
  · exact .mk _ _ h
  · next operation rest s _ =>
    split
    · refine (s.step_reworded h operation).elim ?_
      rintro (fault | _) s _ _ h <;> exact .mk _ _ h
    · rw [s.prepareFirst_reworded h]
      exact .mk _ _ h

theorem perform_commit_reworded {s : Sql.Session} (hauto : s.autocommit = false)
    (h : Disk.Reworded ids d e) :
    MatchesWith ids (Engine.perform "COMMIT" s d) (Engine.perform "COMMIT" s e) := by
  rw [Sql.Session.perform_commit hauto, Sql.Session.perform_commit hauto]
  refine (s.commit_reworded h).elim ?_
  rintro result s _ _ h
  exact .mk _ s h

theorem dropFiles_reworded (paths : List Path) (h : Disk.Reworded ids d e) :
    Disk.Matches ids (Target.dropFiles paths d) (Target.dropFiles paths e) := by
  induction paths generalizing d e with
  | nil => exact .mk _ h
  | cons path rest ih =>
    simp only [Target.dropFiles]
    refine (h.removeFile path).elim ?_
    rintro (fault | _) _ _ h
    · simp only
      split
      · exact ih h
      · exact .mk _ h
    · exact ih h

theorem openDatabase_reworded (busyTimeoutMs : UInt64) (p : Path) (h : Disk.Reworded ids d e) :
    Disk.Matches ids (Target.openDatabase (σ := Sql.Session) busyTimeoutMs p d)
      (Target.openDatabase busyTimeoutMs p e) := by
  simp only [Sql.Session.openDatabase_eq]
  refine (Sql.Session.opening_reworded h p).elim ?_
  rintro (_ | s) _ _ h <;> exact .mk _ h

namespace Reworded

theorem disk (h : Reworded ids t u) : Disk.Reworded ids t.disk u.disk := by
  obtain ⟨h⟩ := h
  exact h

theorem isOpen (h : Reworded ids t u) : u.isOpen = t.isOpen := by
  obtain ⟨h⟩ := h
  rfl

theorem execute (h : Reworded ids t u) (line : String) :
    Matches ids (t.execute line) (u.execute line) := by
  obtain @⟨e, h⟩ := h
  unfold Target.execute
  dsimp only
  split
  · exact .mk _ (.mk t h)
  · split
    · exact .mk _ (.mk t h)
    · next s _ =>
      have hline := runLine_reworded line s h
      generalize Target.runLine line s t.disk = x at hline ⊢
      generalize Target.runLine line s e = y at hline ⊢
      obtain @⟨result, s, d, _, h⟩ := hline
      exact .mk _ (.mk { t with handle? := some s, disk := d } h)

theorem commit (h : Reworded ids t u) : Matches ids t.commit u.commit := by
  obtain ⟨h⟩ := h
  unfold Target.commit
  dsimp only
  split
  · exact .mk _ (.mk t h)
  · split
    · exact .mk _ (.mk t h)
    · next s _ =>
      by_cases hauto : Engine.autocommits s = true
      · simp only [hauto, if_true]
        exact .mk _ (.mk t h)
      · rw [if_neg hauto, if_neg hauto]
        refine (perform_commit_reworded (Bool.eq_false_iff.2 hauto) h).elim ?_
        rintro result s d _ h
        exact .mk _ (.mk { t with handle? := some s, disk := d } h)

theorem deselect (h : Reworded ids t u) : Matches ids t.deselect u.deselect := by
  obtain ⟨h⟩ := h
  unfold Target.deselect
  dsimp only
  split
  · exact .mk _ (.mk { t with database? := none } h)
  · next s _ =>
    exact .mk _ (.mk { t with handle? := none, database? := none, disk := s.close t.disk }
      (s.close_reworded h))

theorem close (h : Reworded ids t u) : Matches ids t.close u.close := by
  obtain ⟨h⟩ := h
  exact deselect (.mk { t with isOpen := false } h)

theorem renew (h : Reworded ids t u) (name : String) :
    Matches ids (t.renew name) (u.renew name) := by
  obtain ⟨h⟩ := h
  unfold Target.renew
  refine (dropFiles_reworded (databaseFiles t.dataDir name) h).elim ?_
  rintro (fault | _) d _ h
  · exact .mk _ (.mk { t with disk := d } h)
  · simp only [Target.select]
    refine (openDatabase_reworded t.busyTimeoutMs (databaseFile t.dataDir name) h).elim ?_
    rintro (fault | s) d _ h
    · exact .mk _ (.mk { t with disk := d } h)
    · exact .mk _ (.mk { t with handle? := some s, database? := some name, disk := d } h)

theorem reset (h : Reworded ids t u) (name : String) :
    Matches ids (t.reset name) (u.reset name) := by
  unfold Target.reset
  rw [h.isOpen]
  split
  · exact .mk _ h
  · split
    · exact .mk _ h
    · refine h.deselect.elim ?_
      rintro (fault | _) _ _ h
      · exact .mk _ h
      · exact h.renew name

end Reworded

/-- Targets on such disks answer alike. -/
theorem simulation_reworded (ids : Set Id) : Simulation (fun _ => True) (Reworded ids) where
  execute h sql _ := by
    simp only [Connection.execute]
    refine (h.execute sql).elim ?_
    rintro answer _ _ h
    exact ⟨rfl, h⟩
  commit h := by
    simp only [Connection.commit]
    refine h.commit.elim ?_
    rintro answer _ _ h
    exact ⟨rfl, h⟩

end FileTarget

/-! ## Runs -/

/-- Whether two runs came out the same and left states that do the same. -/
structure Outcome.Reworded {α : Type} (ids : Set Id) (left right : Outcome FileTarget α) :
    Prop where
  result : right.result = left.result
  events : right.events = left.events
  state : FileTarget.Reworded ids left.state right.state

variable {t u : FileTarget}

theorem resetAndReplay_reworded (database : String) (log : ReplayLog)
    (h : FileTarget.Reworded ids t u) :
    (resetAndReplay database log t).Reworded ids (resetAndReplay database log u) := by
  simp only [resetAndReplay, resetDatabase, Connection.reset]
  split
  · exact ⟨rfl, rfl, h⟩
  refine (h.reset database).elim ?_
  rintro (fault | _) _ _ h
  · exact ⟨rfl, rfl, h⟩
  · obtain ⟨hresult, hevents, hstate⟩ := (FileTarget.simulation_reworded ids).replay h
      fun _ _ => trivial
    exact ⟨by rw [hresult], by rw [hevents], hstate⟩

theorem finished_reworded {α : Type} {left right : Outcome FileTarget α}
    (h : left.Reworded ids right) : left.finished.Reworded ids right.finished := by
  have hrelease {t u : FileTarget} (h : FileTarget.Reworded ids t u) :
      FileTarget.Reworded ids (Connection.release t) (Connection.release u) := by
    simp only [Connection.release, Connection.isOpen, Connection.close, h.isOpen]
    split
    · refine h.close.elim ?_
      rintro _ _ _ h
      exact h
    · exact h
  obtain ⟨hresult, hevents, hstate⟩ := h
  simp only [Outcome.finished, Connection.finish, Connection.close, hresult, hevents]
  cases left.result with
  | error fault => exact ⟨rfl, rfl, hrelease hstate⟩
  | ok a =>
    simp only
    refine hstate.close.elim ?_
    rintro (fault | _) _ _ h <;> exact ⟨rfl, rfl, hrelease h⟩

/-- A replay comes out the same if its log is read the same. -/
theorem run_reworded {config : Config} (h : Disk.Reworded ids d e)
    (hlog : e.read config.replay.logPath = d.read config.replay.logPath) :
    (run config e).result = (run config d).result ∧
      (run config e).events = (run config d).events ∧
      Disk.Reworded ids (run config d).state (run config e).state := by
  simp only [run, runOn, LogFormat.parseFile, hlog]
  split
  · exact ⟨rfl, rfl, h⟩
  · next log _ =>
    split
    · exact ⟨rfl, rfl, h⟩
    · refine (FileTarget.connect_reworded config.target.dataDir config.target.busyTimeoutMs
        h).elim ?_
      rintro (fault | _) _ _ h
      · exact ⟨rfl, rfl, h.disk⟩
      · obtain ⟨hresult, hevents, hstate⟩ := finished_reworded
          (resetAndReplay_reworded config.target.database log h)
        exact ⟨hresult, hevents, hstate.disk⟩

end SqlReplay.Replay
