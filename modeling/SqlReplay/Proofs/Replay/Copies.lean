import SqlReplay.Proofs.Log.Copy
import SqlReplay.Proofs.Replay.Recorded

/-!
# Replaying a copy of a log

A connection is told the texts of statements and nothing else, so logs of the same statements are
replayed alike whatever lines these stand on (`replay_congr`).  With what `Proofs.Log.Copy` says of
copies this makes extracting a projection: the copy of a log is its own copy, and makes the same
calls as the log (`LogFormat.copy_replays`).
-/

namespace SqlReplay

namespace Replay

/-- A failure without the number of its line. -/
def Failure.withoutLine (f : Failure) : Failure := { f with line := 0 }

/-- A report without the numbers of lines. -/
def Report.withoutLines (r : Report) : Report :=
  { r with failures := r.failures.map Failure.withoutLine }

variable {σ : Type} [Connection σ]

/-- Statements run alike whatever lines they stand on. -/
theorem runStatements_congr {statements others : List LoggedStatement}
    (h : statements.map (fun p => (p.position, p.sql)) = others.map fun p => (p.position, p.sql))
    (s : σ) :
    (runStatements statements s).lost = (runStatements others s).lost ∧
      (runStatements statements s).attempted = (runStatements others s).attempted ∧
      (runStatements statements s).failures.map Failure.withoutLine =
        (runStatements others s).failures.map Failure.withoutLine ∧
      (runStatements statements s).state = (runStatements others s).state := by
  induction statements generalizing others s with
  | nil =>
    rw [List.map_nil, eq_comm, List.map_eq_nil_iff] at h
    subst h
    exact ⟨rfl, rfl, rfl, rfl⟩
  | cons statement rest ih => cases others with
    | nil => cases h
    | cons other rest' =>
      rw [List.map_cons, List.map_cons, List.cons.injEq, Prod.mk.injEq] at h
      obtain ⟨⟨hposition, hsql⟩, hrest⟩ := h
      simp only [runStatements, hsql]
      rcases Connection.execute other.sql s with ⟨(message | message) | _, s'⟩
      · exact ⟨by simp only [lostAt, hposition], rfl, rfl, rfl⟩
      · obtain ⟨hlost, hattempted, hfailures, hstate⟩ := ih hrest s'
        refine ⟨hlost, congrArg (· + 1) hattempted, ?_, hstate⟩
        simp only [List.map_cons, hfailures, Failure.withoutLine, Failure.ofStatement, hposition,
          hsql]
      · obtain ⟨hlost, hattempted, hfailures, hstate⟩ := ih hrest s'
        exact ⟨hlost, congrArg (· + 1) hattempted, hfailures, hstate⟩

/-- Logs of the same statements are replayed alike whatever lines these stand on. -/
theorem replay_congr {log other : ReplayLog}
    (h : log.statements.map (fun p => (p.position, p.sql)) =
      other.statements.map fun p => (p.position, p.sql)) (s : σ) :
    (replay log s).result.map Report.withoutLines =
        (replay other s).result.map Report.withoutLines ∧
      (replay log s).state = (replay other s).state := by
  have hsize : log.size = other.size := by
    have hlength := congrArg List.length h
    rwa [List.length_map, List.length_map] at hlength
  obtain ⟨hlost, hattempted, hfailures, hstate⟩ := runStatements_congr h s
  simp only [replay, hlost, hattempted, hstate, hsize]
  cases (runStatements other.statements s).lost with
  | some fault => exact ⟨rfl, rfl⟩
  | none =>
    rcases Connection.commit (runStatements other.statements s).state with ⟨fault | _, s'⟩
    · exact ⟨rfl, rfl⟩
    · refine ⟨?_, rfl⟩
      simp only [Except.map, Report.withoutLines, hfailures]

end Replay

namespace LogFormat

open Replay

/-- Extracting again gives the same.  If the first statement of a log stands on the line that opened
the block, which it always does under the usual markers, then any text that has the statements for
its lines is the log of the same statements, one a line from the first on; what these would be
written as is the same text again, and they are replayed as those of the log are. -/
theorem copy_replays (format : LogFormat) (text : List Char) :
    let log := format.parse text
    (format = default → log.blockStart ≠ none → log.StartsAtOpening) ∧
    Text.lines log.written = log.sqls ∧
    (log.StartsAtOpening → ∀ copy, Text.lines copy = log.sqls →
      let again := format.parse copy
      again.statements.map LoggedStatement.sql = log.statements.map LoggedStatement.sql ∧
      again.statements.map LoggedStatement.position = List.range' 1 log.size ∧
      again.statements.map LoggedStatement.line = List.range' 1 log.size ∧
      again.blockStart = some 1 ∧
      again.written = log.written ∧ format.parse again.written = again ∧
      ∀ (σ : Type) [Connection σ] (s : σ),
        (replay again (Recorded.fresh s)).state.calls =
          (replay log (Recorded.fresh s)).state.calls ∧
        (replay again s).state = (replay log s).state ∧
        (replay again s).result.map Report.withoutLines =
          (replay log s).result.map Report.withoutLines) := by
  intro log
  refine ⟨?_, lines_written format text, fun hstarts copy hcopy => ?_⟩
  · rintro rfl hopened
    exact startsAtOpening_default hopened
  · intro again
    have hagain : again = log.copy := parse_eq_copy hstarts hcopy
    have hsqls : log.copy.sqls = log.sqls := log.sqls_copy
    have hwritten : log.copy.written = log.written := by
      rw [ReplayLog.written, hsqls, ReplayLog.written]
    have htold := told_copy format text
    have htexts : again.statements.map LoggedStatement.sql =
        log.statements.map LoggedStatement.sql := by
      have hmap := congrArg (List.map Prod.snd) htold
      rw [List.map_map, List.map_map] at hmap
      rw [hagain]
      exact hmap
    rw [hagain] at htexts ⊢
    refine ⟨htexts, log.map_position_copy, log.map_line_copy, rfl, hwritten, ?_, ?_⟩
    · rw [hwritten]
      exact parse_eq_copy hstarts (lines_written format text)
    · intro σ _ s
      obtain ⟨hresult, hstate⟩ := replay_congr htold s
      obtain ⟨-, hrecord⟩ := replay_congr htold (Recorded.fresh s)
      exact ⟨by rw [hrecord], hstate, hresult⟩

/-- A log with noise, a comment, blanks of all kinds and carriage returns within and at the ends of
lines. -/
def untidyLog : List Char :=
  "noise\n\u3000Create t\r\n# note\n\n insert\r\u0085x \u2028\r\r\ncommit".toList

theorem copy_replays_untidy :
    ((ofMarkers "create" "#").parse untidyLog).sqls =
        ["Create t".toList, "insert\r\u0085x".toList, "commit".toList] ∧
      ((ofMarkers "create" "#").parse untidyLog).StartsAtOpening ∧
      ((ofMarkers "create" "#").parse
        ((ofMarkers "create" "#").parse untidyLog).written).statements.map LoggedStatement.line =
          [1, 2, 3] := by
  have hsqls : ((ofMarkers "create" "#").parse untidyLog).sqls =
      ["Create t".toList, "insert\r\u0085x".toList, "commit".toList] := by decide +kernel
  have hstarts : ((ofMarkers "create" "#").parse untidyLog).StartsAtOpening :=
    ⟨⟨1, 2, "Create t"⟩, [⟨2, 5, "insert\r\u0085x"⟩, ⟨3, 6, "commit"⟩], by decide +kernel,
      by decide +kernel⟩
  have hsize : ((ofMarkers "create" "#").parse untidyLog).size = 3 := by decide +kernel
  obtain ⟨-, hlines, hcopy⟩ := copy_replays (ofMarkers "create" "#") untidyLog
  obtain ⟨-, -, hnumbers, -⟩ := hcopy hstarts _ hlines
  rw [hsize] at hnumbers
  exact ⟨hsqls, hstarts, hnumbers⟩

end LogFormat

end SqlReplay
