import Mathlib.Data.List.TakeWhile
import SqlReplay.Proofs.Replay.Recorded

/-!
# Faults stay with their statements

On any connection, a replay executes the statements of the log in their order.  Either no answer is
fatal, and then every statement is executed and one commit follows, or the replay ends at the first
fatal answer.  A refused statement leaves nothing but its failure in the report
(`replay_isolates_faults`).
-/

namespace SqlReplay.Replay

variable {σ : Type} [Connection σ]

/-! ## The first fatal answer -/

/-- Either no answer is fatal, or there is a first statement with a fatal answer. -/
theorem no_fatal_or_first_fatal (statements : List LoggedStatement) (s : σ) :
    (∀ a ∈ answers statements s, a.isFatal = false) ∨
      ∃ pre p post message, statements = pre ++ p :: post ∧
        (∀ a ∈ answers pre s, a.isFatal = false) ∧
        (Connection.execute p.sql (after pre s)).1 = .error (.fatal message) := by
  induction statements generalizing s with
  | nil => exact Or.inl fun a ha => absurd ha List.not_mem_nil
  | cons statement rest ih =>
    let first : Answer := (statement, (Connection.execute statement.sql s).1)
    by_cases hfirst : first.isFatal
    · rcases first.cases with ⟨message, h⟩ | ⟨message, h⟩ | h
      · exact Or.inr ⟨[], statement, rest, message, rfl,
          fun a ha => absurd ha List.not_mem_nil, h⟩
      all_goals simp [Answer.isFatal, h, ExecFault.isFatal] at hfirst
    · rw [Bool.not_eq_true] at hfirst
      rcases ih (Connection.execute statement.sql s).2 with h | ⟨pre, p, post, message, h, hpre, hp⟩
      · refine Or.inl fun a ha => ?_
        rcases List.mem_cons.1 ha with rfl | ha
        · exact hfirst
        · exact h a ha
      · refine Or.inr ⟨statement :: pre, p, post, message, by rw [h]; rfl, fun a ha => ?_, hp⟩
        rcases List.mem_cons.1 ha with rfl | ha
        · exact hfirst
        · exact hpre a ha

theorem survived_of_no_fatal {statements : List LoggedStatement} {s : σ}
    (h : ∀ a ∈ answers statements s, a.isFatal = false) :
    survived statements s = answers statements s := by
  unfold survived
  rw [List.takeWhile_eq_self_iff]
  intro a ha
  simp only [h a ha, Bool.not_false]

theorem survived_of_first_fatal {pre post : List LoggedStatement} {p : LoggedStatement}
    {message : String} {s : σ} (hpre : ∀ a ∈ answers pre s, a.isFatal = false)
    (hp : (Connection.execute p.sql (after pre s)).1 = .error (.fatal message)) :
    survived (pre ++ p :: post) s = answers pre s := by
  have hgoes : ∀ a ∈ answers pre s, (!a.isFatal) = true := by
    intro a ha
    rw [hpre a ha, Bool.not_false]
  unfold survived
  rw [answers_append, List.takeWhile_append_of_pos hgoes]
  simp only [answers, hp, Answer.isFatal, ExecFault.isFatal, Bool.not_true, Bool.false_eq_true,
    not_false_eq_true, List.takeWhile_cons_of_neg, List.append_nil]

/-! ## The statements of a log -/

/-- The failures that a run records. -/
def recordedFailures (as : List Answer) : List Failure := as.filterMap Answer.failure?

/-- Statements whose answers are not fatal are all executed, and those refused are recorded. -/
theorem runStatements_of_no_fatal {pre : List LoggedStatement} {s : σ}
    (hpre : ∀ a ∈ answers pre s, a.isFatal = false) (post : List LoggedStatement) :
    let rest := runStatements post (after pre s)
    runStatements (pre ++ post) s =
      ⟨rest.lost, rest.attempted + pre.length,
        recordedFailures (answers pre s) ++ rest.failures,
        (recordedFailures (answers pre s)).map Failure.event ++ rest.events, rest.state⟩ := by
  induction pre generalizing s with
  | nil => rfl
  | cons statement rest ih =>
    have hfirst := hpre _ List.mem_cons_self
    have hrest := ih fun a ha => hpre a (List.mem_cons_of_mem _ ha)
    simp only [List.cons_append, runStatements, after_cons]
    rcases hx : Connection.execute statement.sql s with ⟨answer, s'⟩
    rw [hx] at hrest
    rcases answer with (message | message) | _
    · simp [Answer.isFatal, hx, ExecFault.isFatal] at hfirst
    · simp only [hrest, recordedFailures, answers, hx, List.filterMap_cons, Answer.failure?,
        List.map_cons, List.cons_append, List.length_cons, Nat.add_assoc]
    · simp only [hrest, recordedFailures, answers, hx, List.filterMap_cons, Answer.failure?,
        List.length_cons, Nat.add_assoc]

/-- A fatal answer ends the run at its statement. -/
theorem runStatements_of_fatal {p : LoggedStatement} {message : String} {s : σ}
    (hp : (Connection.execute p.sql s).1 = .error (.fatal message))
    (post : List LoggedStatement) :
    runStatements (p :: post) s =
      ⟨some (lostAt p message), 1, [], [abortedAt p (lostAt p message)],
        (Connection.execute p.sql s).2⟩ := by
  simp only [runStatements]
  rcases hx : Connection.execute p.sql s with ⟨answer, s'⟩
  rw [hx] at hp
  subst hp
  rfl

/-! ## The replay -/

/-- A replay without a fatal answer commits and reports. -/
theorem replay_of_no_fatal (log : ReplayLog) (s : σ)
    (h : ∀ a ∈ answers log.statements s, a.isFatal = false) :
    let failures := recordedFailures (answers log.statements s)
    let committed := Connection.commit (after log.statements s)
    let report : Report := ⟨.completed, none, log.size, log.size, failures⟩
    replay log s = match committed.1 with
      | .ok () =>
        ⟨.ok report, failures.map Failure.event ++ [completedEvent report], committed.2⟩
      | .error fault =>
        ⟨.error fault, failures.map Failure.event ++ [aborted fault], committed.2⟩ := by
  have hrun := runStatements_of_no_fatal h []
  simp only [List.append_nil, runStatements, Nat.zero_add] at hrun
  simp only [replay, hrun, ReplayLog.size]
  rcases Connection.commit (after log.statements s) with ⟨answer, s'⟩
  cases answer <;> rfl

/-- A replay ends at the first fatal answer. -/
theorem replay_of_first_fatal {log : ReplayLog} {pre post : List LoggedStatement}
    {p : LoggedStatement} {message : String} (s : σ) (hlog : log.statements = pre ++ p :: post)
    (hpre : ∀ a ∈ answers pre s, a.isFatal = false)
    (hp : (Connection.execute p.sql (after pre s)).1 = .error (.fatal message)) :
    replay log s =
      ⟨.error (lostAt p message),
        (recordedFailures (answers pre s)).map Failure.event ++ [abortedAt p (lostAt p message)],
        (Connection.execute p.sql (after pre s)).2⟩ := by
  have hrun := runStatements_of_no_fatal hpre (p :: post)
  simp only [runStatements_of_fatal hp] at hrun
  simp only [replay, hlog, hrun]

/-- A replay does what an unrecorded one does, and either no answer is fatal or there is a first
statement whose answer is.  In the first case every statement is executed once and in order, one
commit follows, and if it succeeds the report holds the refused statements.  In the second case the
statements after that one are not executed, nothing is committed, and the failure names the
statement. -/
theorem replay_isolates_faults (log : ReplayLog) (s : σ) :
    let o := replay log (Recorded.fresh s)
    let as := answers log.statements s
    (o.result = (replay log s).result ∧ o.events = (replay log s).events ∧
      o.state.inner = (replay log s).state) ∧
    ((∀ a ∈ as, a.isFatal = false) ∧
        o.state.calls = log.statements.map (.execute ·.sql) ++ [.commit] ∧
        (∀ fault, (Connection.commit (after log.statements s)).1 = .error fault →
          o.result = .error fault) ∧
        ((Connection.commit (after log.statements s)).1 = .ok () → ∃ report,
          o.result = .ok report ∧ report.status = .completed ∧ report.database = none ∧
          report.total = log.statements.length ∧ report.attempted = log.statements.length ∧
          report.failures = as.filterMap Answer.failure? ∧
          report.succeeded = as.countP Answer.isOk ∧
          report.succeeded + report.failures.length = report.attempted) ∨
      ∃ pre p post message, log.statements = pre ++ p :: post ∧
        (∀ a ∈ answers pre s, a.isFatal = false) ∧
        (Connection.execute p.sql (after pre s)).1 = .error (.fatal message) ∧
        o.state.calls = (pre ++ [p]).map (.execute ·.sql) ∧
        o.result = .error (.connection "replay"
          ("statement " ++ toString p.position ++ ": " ++ message))) := by
  refine ⟨replay_record log (Recorded.fresh s), ?_⟩
  rcases no_fatal_or_first_fatal log.statements s with
    h | ⟨pre, p, post, message, hlog, hpre, hp⟩
  · left
    have hcount := countP_isOk_add_length_failures h
    rw [length_answers] at hcount
    have hreplay := replay_of_no_fatal log (Recorded.fresh s) (by rw [answers_record]; exact h)
    simp only [answers_record, after_record, Recorded.commit_eq, Recorded.fresh,
      List.nil_append] at hreplay
    simp only [Recorded.fresh, hreplay]
    refine ⟨h, ?_, ?_, ?_⟩
    · cases (Connection.commit (after log.statements s)).1 <;> rfl
    · intro fault hfault
      simp only [hfault]
    · intro hok
      simp only [hok]
      refine ⟨_, rfl, rfl, rfl, rfl, rfl, rfl, ?_, ?_⟩
      all_goals
        simp only [Report.succeeded, Report.failed, ReplayLog.size, recordedFailures]
        omega
  · right
    refine ⟨pre, p, post, message, hlog, hpre, hp, ?_⟩
    have hfatal : (Connection.execute p.sql (after pre (Recorded.fresh s))).1 =
        .error (.fatal message) := by
      rw [after_record]
      exact hp
    have hreplay := replay_of_first_fatal (Recorded.fresh s) hlog
      (by rw [answers_record]; exact hpre) hfatal
    rw [hreplay, after_record]
    exact ⟨by simp [Recorded.execute_eq, Recorded.fresh], rfl⟩

end SqlReplay.Replay
