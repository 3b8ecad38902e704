import SqlReplay.Proofs.Replay.FaultIsolation

/-!
# The trace of a run

A run that starts a database over and replays a log on it tells nothing, a start and an abort, or a
start, a reset, the refused statements and one closing event.  Which of these it tells is fixed by
the log and by the answer to the reset, and the closing event tells the result (`Closes`).  The main
statement is `resetAndReplay_trace`.
-/

namespace SqlReplay.Replay

variable {σ : Type} [Connection σ]

/-- The last event of a run tells its result: the counts of a report, or the failure. -/
def Closes : Except Error Report → Event → Prop
  | .ok report, last =>
    last.kind = .replayComplete ∧ last.count = some report.attempted ∧
      last.failed = some report.failures.length
  | .error fault, last =>
    last.kind = .replayAborted ∧ last.errorCode = some fault.code ∧
      last.errorMessage = some fault.message

/-- The event of a database that has been started over. -/
def resetEvent (database : String) : Event :=
  { Event.of .databaseReset .info with database := some database }

theorem Closes.kind {result : Except Error Report} {last : Event} (h : Closes result last) :
    last.kind = .replayComplete ∨ last.kind = .replayAborted := by
  cases result with
  | ok report => exact Or.inl h.1
  | error fault => exact Or.inr h.1

theorem Closes.ok_iff {result : Except Error Report} {last : Event} (h : Closes result last) :
    (∃ report, result = .ok report) ↔ last.kind = .replayComplete := by
  cases result with
  | ok report => exact iff_of_true ⟨report, rfl⟩ h.1
  | error fault =>
    refine iff_of_false (by rintro ⟨report, e⟩; cases e) ?_
    rw [h.1]
    decide

theorem Closes.error_iff {result : Except Error Report} {last : Event} (h : Closes result last) :
    (∃ fault, result = .error fault) ↔ last.kind = .replayAborted := by
  cases result with
  | ok report =>
    refine iff_of_false (by rintro ⟨fault, e⟩; cases e) ?_
    rw [h.1]
    decide
  | error fault => exact iff_of_true ⟨fault, rfl⟩ h.1

/-! ## The events of a replay -/

/-- A replay tells of every refused statement and closes with its result. -/
theorem replay_events (log : ReplayLog) (s : σ) :
    let refused := recordedFailures (survived log.statements s)
    ∃ last, (replay log s).events = refused.map Failure.event ++ [last] ∧
      Closes (replay log s).result last ∧
      ∀ report, (replay log s).result = .ok report → report.failures = refused := by
  rcases no_fatal_or_first_fatal log.statements s with
    h | ⟨pre, p, post, message, hlog, hpre, hp⟩
  · simp only [survived_of_no_fatal h, replay_of_no_fatal log s h]
    cases (Connection.commit (after log.statements s)).1 with
    | error fault => exact ⟨aborted fault, rfl, ⟨rfl, rfl, rfl⟩, fun report e => by cases e⟩
    | ok _ =>
      refine ⟨_, rfl, ⟨rfl, rfl, rfl⟩, fun report e => ?_⟩
      cases e
      rfl
  · rw [hlog, survived_of_first_fatal hpre hp]
    simp only [replay_of_first_fatal s hlog hpre hp]
    exact ⟨abortedAt p (lostAt p message), rfl, ⟨rfl, rfl, rfl⟩, fun report e => by cases e⟩

/-! ## The three courses of a run -/

/-- The outcome of a run that starts over, by the fate of its reset. -/
inductive Course (database : String) (log : ReplayLog) (s : σ) :
    Outcome (Recorded σ) Report → Prop
  | untouched (hlog : log.statements = []) :
    Course database log s ⟨.ok .nothingToRun, [], Recorded.fresh s⟩
  | notReset {fault : Error} (hlog : log.statements ≠ [])
    (hreset : (Connection.reset database s).1 = .error fault) :
    Course database log s ⟨.error fault,
      [startEvent database log, { aborted fault with database := some database }],
      ⟨[.reset database], (Connection.reset database s).2⟩⟩
  | ran {o : Outcome (Recorded σ) Report} {last : Event} {refused : List Failure}
    (hlog : log.statements ≠ []) (hreset : (Connection.reset database s).1 = .ok ())
    (hrefused : refused =
      recordedFailures (survived log.statements (Connection.reset database s).2))
    (hevents : o.events = startEvent database log :: resetEvent database ::
      (refused.map Failure.event ++ [last]))
    (hcloses : Closes o.result last)
    (hfailures : ∀ report, o.result = .ok report → report.failures = refused) :
    Course database log s o

theorem survived_record (statements : List LoggedStatement) (r : Recorded σ) :
    survived statements r = survived statements r.inner := by
  simp only [survived, answers_record]

/-- Naming the database in a report changes nothing that the closing event tells. -/
theorem Closes.map_database {result : Except Error Report} {last : Event} (h : Closes result last)
    (database : String) :
    Closes (result.map fun report => { report with database := some database }) last := by
  cases result <;> exact h

/-- Every run takes one of the three courses. -/
theorem resetAndReplay_course (database : String) (log : ReplayLog) (s : σ) :
    Course database log s (resetAndReplay database log (Recorded.fresh s)) := by
  by_cases hlog : log.statements = []
  · have ho : resetAndReplay database log (Recorded.fresh s) =
        ⟨.ok .nothingToRun, [], Recorded.fresh s⟩ := by
      simp only [resetAndReplay, ReplayLog.isEmpty, hlog, List.isEmpty_nil, if_true]
    rw [ho]
    exact .untouched hlog
  · have hempty : log.isEmpty = false := by simpa [ReplayLog.isEmpty] using hlog
    rcases hreset : (Connection.reset database s).1 with fault | _
    · have ho : resetAndReplay database log (Recorded.fresh s) = ⟨.error fault,
          [startEvent database log, { aborted fault with database := some database }],
          ⟨[.reset database], (Connection.reset database s).2⟩⟩ := by
        simp only [resetAndReplay, hempty, resetDatabase, Recorded.reset_eq, Recorded.fresh, hreset]
        rfl
      rw [ho]
      exact .notReset hlog hreset
    · obtain ⟨last, hevents, hcloses, hfailures⟩ := replay_events log
        (⟨[.reset database], (Connection.reset database s).2⟩ : Recorded σ)
      rw [survived_record] at hevents hfailures
      have ho : resetAndReplay database log (Recorded.fresh s) =
          let run := replay log (⟨[.reset database], (Connection.reset database s).2⟩ : Recorded σ)
          ⟨run.result.map fun report => { report with database := some database },
            startEvent database log :: resetEvent database :: run.events, run.state⟩ := by
        simp only [resetAndReplay, hempty, resetDatabase, Recorded.reset_eq, Recorded.fresh, hreset]
        rfl
      rw [ho]
      refine .ran hlog hreset rfl (congrArg (startEvent database log :: resetEvent database :: ·)
        hevents) (hcloses.map_database database) ?_
      intro report e
      rcases hr : (replay log (⟨[.reset database], (Connection.reset database s).2⟩ :
        Recorded σ)).result with fault | found
      · simp only [hr] at e
        cases e
      · simp only [hr] at e
        cases e
        exact hfailures found hr

/-! ## What the courses have in common -/

section Course

variable {database : String} {log : ReplayLog} {s : σ} {o : Outcome (Recorded σ) Report}

/-- The kinds of events that a run tells. -/
def Outcome.kinds {τ α : Type} (o : Outcome τ α) : List EventKind := o.events.map Event.kind

omit [Connection σ] in
/-- The kinds of events after a reset: one for each refused statement between three others. -/
theorem kinds_of_ran {last : Event} {refused : List Failure}
    (hevents : o.events = startEvent database log :: resetEvent database ::
      (refused.map Failure.event ++ [last])) :
    o.kinds = [.replayStart, .databaseReset] ++
      List.replicate refused.length .statementFailed ++ [last.kind] := by
  have hfailed : (refused.map Failure.event).map Event.kind =
      List.replicate refused.length .statementFailed := by
    rw [List.map_map, List.map_eq_replicate_iff]
    exact fun f _ => rfl
  simp only [Outcome.kinds, hevents, List.map_cons, List.map_append, hfailed, List.map_nil,
    List.cons_append, List.nil_append]
  rfl

omit [Connection σ] in
theorem getLast?_kinds_of_ran {last : Event} {refused : List Failure}
    (hevents : o.events = startEvent database log :: resetEvent database ::
      (refused.map Failure.event ++ [last])) : o.kinds.getLast? = some last.kind := by
  rw [kinds_of_ran hevents, List.getLast?_concat]

omit [Connection σ] in
theorem kinds_ne_of_ran {last : Event} {refused : List Failure}
    (hevents : o.events = startEvent database log :: resetEvent database ::
      (refused.map Failure.event ++ [last])) : o.kinds ≠ [.replayStart, .replayAborted] := by
  rw [kinds_of_ran hevents]
  intro h
  cases h

theorem Course.events_eq_nil_iff (c : Course database log s o) :
    o.events = [] ↔ log.statements = [] := by
  cases c with
  | untouched hlog => exact iff_of_true rfl hlog
  | notReset hlog hreset => exact iff_of_false (List.cons_ne_nil _ _) hlog
  | ran hlog hreset hrefused hevents hcloses hfailures =>
    exact iff_of_false (by rw [hevents]; exact List.cons_ne_nil _ _) hlog

theorem Course.eq_of_nothing_to_run (c : Course database log s o) (h : log.statements = []) :
    o.result = .ok .nothingToRun ∧ o.state = Recorded.fresh s := by
  cases c with
  | untouched hlog => exact ⟨rfl, rfl⟩
  | notReset hlog hreset => exact absurd h hlog
  | ran hlog hreset hrefused hevents hcloses hfailures => exact absurd h hlog

theorem Course.aborted_at_once_iff (c : Course database log s o) :
    o.kinds = [.replayStart, .replayAborted] ↔
      log.statements ≠ [] ∧ ∃ fault, (Connection.reset database s).1 = .error fault := by
  cases c with
  | untouched hlog => exact iff_of_false (by intro h; cases h) fun h => h.1 hlog
  | notReset hlog hreset => exact iff_of_true rfl ⟨hlog, _, hreset⟩
  | ran hlog hreset hrefused hevents hcloses hfailures =>
    refine iff_of_false (kinds_ne_of_ran hevents) ?_
    rintro ⟨-, fault, h⟩
    rw [hreset] at h
    cases h

theorem Course.calls_of_aborted_at_once (c : Course database log s o)
    (h : o.kinds = [.replayStart, .replayAborted]) : o.state.calls = [.reset database] := by
  cases c with
  | untouched hlog => cases h
  | notReset hlog hreset => rfl
  | ran hlog hreset hrefused hevents hcloses hfailures => exact absurd h (kinds_ne_of_ran hevents)

theorem Course.ran_iff (c : Course database log s o) :
    (∃ last, o.events = startEvent database log :: resetEvent database ::
        ((recordedFailures (survived log.statements (Connection.reset database s).2)).map
          Failure.event ++ [last]) ∧
      (last.kind = .replayComplete ∨ last.kind = .replayAborted)) ↔
      log.statements ≠ [] ∧ (Connection.reset database s).1 = .ok () := by
  cases c with
  | untouched hlog =>
    refine iff_of_false ?_ fun h => h.1 hlog
    rintro ⟨last, h, -⟩
    cases h
  | notReset hlog hreset =>
    refine iff_of_false ?_ fun h => ?_
    · rintro ⟨last, h, -⟩
      simp only [List.cons.injEq, List.nil_eq, List.append_eq_nil_iff, List.cons_ne_nil,
        and_false] at h
    · rw [hreset] at h
      cases h.2
  | ran hlog hreset hrefused hevents hcloses hfailures =>
    rw [hrefused] at hevents
    exact iff_of_true ⟨_, hevents, hcloses.kind⟩ ⟨hlog, hreset⟩

theorem Course.ok_iff (c : Course database log s o) :
    (∃ report, o.result = .ok report) ↔
      o.kinds = [] ∨ o.kinds.getLast? = some .replayComplete := by
  cases c with
  | untouched hlog => exact iff_of_true ⟨_, rfl⟩ (Or.inl rfl)
  | notReset hlog hreset =>
    refine iff_of_false (by rintro ⟨report, h⟩; cases h) ?_
    rintro (h | h) <;> cases h
  | ran hlog hreset hrefused hevents hcloses hfailures =>
    have hne : o.kinds ≠ [] := by
      rw [kinds_of_ran hevents]
      exact List.cons_ne_nil _ _
    rw [hcloses.ok_iff, getLast?_kinds_of_ran hevents, Option.some.injEq]
    exact (or_iff_right hne).symm

theorem Course.error_iff (c : Course database log s o) :
    (∃ fault, o.result = .error fault) ↔ o.kinds.getLast? = some .replayAborted := by
  cases c with
  | untouched hlog =>
    refine iff_of_false (by rintro ⟨fault, h⟩; cases h) (by intro h; cases h)
  | notReset hlog hreset => exact iff_of_true ⟨_, rfl⟩ rfl
  | ran hlog hreset hrefused hevents hcloses hfailures =>
    rw [hcloses.error_iff, getLast?_kinds_of_ran hevents, Option.some.injEq]

theorem Course.closes (c : Course database log s o) {last : Event}
    (h : o.events.getLast? = some last) : Closes o.result last := by
  cases c with
  | untouched hlog => cases h
  | notReset hlog hreset =>
    obtain rfl := Option.some.inj h
    exact ⟨rfl, rfl, rfl⟩
  | ran hlog hreset hrefused hevents hcloses hfailures =>
    rw [hevents, ← List.cons_append, ← List.cons_append, List.getLast?_concat] at h
    obtain rfl := Option.some.inj h
    exact hcloses

/-- A report's failures are those that were told. -/
theorem Course.filter_failed (c : Course database log s o) {report : Report}
    (h : o.result = .ok report) :
    o.events.filter (·.kind = .statementFailed) = report.failures.map Failure.event := by
  cases c with
  | untouched hlog =>
    cases h
    rfl
  | notReset hlog hreset => cases h
  | @ran _ last refused hlog hreset hrefused hevents hcloses hfailures =>
    have hlast : last.kind = .replayComplete := hcloses.ok_iff.1 ⟨report, h⟩
    have hstart : (startEvent database log).kind = .replayStart := rfl
    have hreset : (resetEvent database).kind = .databaseReset := rfl
    rw [hevents, hfailures report h]
    simp only [List.filter_cons, List.filter_append, List.filter_nil, hstart, hreset, hlast,
      reduceCtorEq, decide_false, Bool.false_eq_true, if_false, List.append_nil]
    rw [List.filter_eq_self]
    intro e he
    obtain ⟨f, -, rfl⟩ := List.mem_map.1 he
    rfl

end Course

/-- The events of a run are none, a start and an abort, or a start, a reset, one event for each
refused statement and one that closes the run.  They are none exactly if the log has no statement,
and then the connection is not called; they are a start and an abort exactly if the reset fails, and
then nothing is called after it.  A run goes well exactly if it tells nothing or ends in
completion, and fails exactly if it ends in an abort; the closing event tells the counts of the
report, or the failure; and a report's failures are those that were told. -/
theorem resetAndReplay_trace (database : String) (log : ReplayLog) (s : σ) :
    let o := resetAndReplay database log (Recorded.fresh s)
    let reset := Connection.reset database s
    let refused := recordedFailures (survived log.statements reset.2)
    (o.result = (resetAndReplay database log s).result ∧
      o.events = (resetAndReplay database log s).events ∧
      o.state.inner = (resetAndReplay database log s).state) ∧
    (o.events = [] ↔ log.statements = []) ∧
    (log.statements = [] → o.result = .ok .nothingToRun ∧ o.state = Recorded.fresh s) ∧
    (o.kinds = [.replayStart, .replayAborted] ↔
      log.statements ≠ [] ∧ ∃ fault, reset.1 = .error fault) ∧
    (o.kinds = [.replayStart, .replayAborted] → o.state.calls = [.reset database]) ∧
    ((∃ last, o.events = startEvent database log :: resetEvent database ::
          (refused.map Failure.event ++ [last]) ∧
        (last.kind = .replayComplete ∨ last.kind = .replayAborted)) ↔
      log.statements ≠ [] ∧ reset.1 = .ok ()) ∧
    ((∃ report, o.result = .ok report) ↔
      o.kinds = [] ∨ o.kinds.getLast? = some .replayComplete) ∧
    ((∃ fault, o.result = .error fault) ↔ o.kinds.getLast? = some .replayAborted) ∧
    (∀ last, o.events.getLast? = some last → Closes o.result last) ∧
    (∀ report, o.result = .ok report →
      (o.events.filter (·.kind = .statementFailed)).map
          (fun e => (e.position, e.line, e.sql, e.errorCode, e.errorMessage)) =
        report.failures.map fun f =>
          (some f.position, some f.line, some f.sql, some f.error.code, some f.error.message)) := by
  have c := resetAndReplay_course database log s
  refine ⟨resetAndReplay_record database log (Recorded.fresh s), c.events_eq_nil_iff,
    c.eq_of_nothing_to_run, c.aborted_at_once_iff, c.calls_of_aborted_at_once, c.ran_iff, c.ok_iff,
    c.error_iff, fun last h => c.closes h, fun report h => ?_⟩
  rw [c.filter_failed h, List.map_map]
  rfl

end SqlReplay.Replay
