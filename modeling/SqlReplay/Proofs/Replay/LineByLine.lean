import SqlReplay.Proofs.Sql.AloneEngine
import SqlReplay.Proofs.Storage.Prepared

/-!
# Replaying line by line

A run collects what the statements of a log do in one transaction.  For statements that do in a
transaction what they do outside (`SteadyLine`), a run that completes commits what the statements
would have committed that run one by one on an empty database, each on its own, and the failures are
the same (`run_refines_lineByLine`).  Until the commit has succeeded, and if the run fails before,
the database stays empty.  This holds of every engine that keeps its promises on transactions.
-/

namespace SqlReplay.Replay

open Storage

variable {σ : Type} [Engine σ] {O : Observer σ} {p q : Path} {x : O.Seen} {t r : Target σ}

/-! ## The reference run -/

/-- A target whose session has just been opened on a new file: no transaction is open, so each line
is committed at once. -/
structure Reference (q : Path) (r : Target σ) : Prop where
  isOpen : r.isOpen = true
  session : ∃ (s : σ) (d : Disk), r.handle? = some s ∧ d.Numbered ∧ AllVacant d q ∧
    Engine.opening q d = (.ok s, r.disk)

theorem Reference.atWork (laws : TransactionLaws O) (h : Reference q r) :
    AtWork O q true O.fresh r := by
  obtain ⟨s, d, hs, hd, hvacant, hopening⟩ := h.session
  exact ⟨h.isOpen, s, hs, laws.opening hd hvacant hopening⟩

/-- A steady line has the same answer in the transaction as in the reference, and leaves both
sessions with the same, unless either is lost.  If it is refused it does nothing. -/
theorem execute_alike {line : String} (hline : SteadyLine O line) (hrun : AtWork O p false x t)
    (href : AtWork O q true x r)
    (hnone : ∀ message, (Connection.execute line t).1 ≠ .error (.fatal message))
    (hnone' : ∀ message, (Connection.execute line r).1 ≠ .error (.fatal message)) :
    (Connection.execute line t).1 = (Connection.execute line r).1 ∧
      ∃ y, AtWork O p false y (Connection.execute line t).2 ∧
        AtWork O q true y (Connection.execute line r).2 ∧
        ((Connection.execute line r).1 ≠ .ok () → y = x) := by
  obtain ⟨s, hs, hsees⟩ := hrun.session
  obtain ⟨s', hs', hsees'⟩ := href.session
  rw [execute_of_handle hrun.isOpen hs] at hnone ⊢
  rw [execute_of_handle href.isOpen hs'] at hnone' ⊢
  rcases hline.alike hsees hsees' with
    ⟨message, hfatal⟩ | ⟨message, hfatal⟩ | ⟨hanswer, y, hy, hy', h⟩
  · exact absurd hfatal (hnone message)
  · exact absurd hfatal (hnone' message)
  · exact ⟨hanswer, y, ⟨hrun.isOpen, _, rfl, hy⟩, ⟨href.isOpen, _, rfl, hy'⟩, h⟩

theorem ne_fatal_of_isFatal {statement : LoggedStatement} {answer : Except ExecFault Unit}
    (h : Answer.isFatal (statement, answer) = false) (message : String) :
    answer ≠ .error (.fatal message) := by
  rintro rfl
  cases h

/-- Steady statements have the same answers in the transaction as in the reference, and both
sessions see the same after them. -/
theorem answers_alike {statements : List LoggedStatement}
    (hsteady : ∀ st ∈ statements, SteadyLine O st.sql) (hrun : AtWork O p false x t)
    (href : AtWork O q true x r) (hnone : ∀ a ∈ answers statements t, a.isFatal = false)
    (hnone' : ∀ a ∈ answers statements r, a.isFatal = false) :
    answers statements t = answers statements r ∧
      ∃ y, AtWork O p false y (after statements t) ∧ AtWork O q true y (after statements r) := by
  induction statements generalizing x t r with
  | nil => exact ⟨rfl, x, hrun, href⟩
  | cons st rest ih =>
    obtain ⟨hfirst, hrest⟩ := List.forall_mem_cons.1 hnone
    obtain ⟨hfirst', hrest'⟩ := List.forall_mem_cons.1 hnone'
    obtain ⟨hanswer, y, hrun', href', -⟩ := execute_alike (hsteady st List.mem_cons_self) hrun href
      (ne_fatal_of_isFatal hfirst) (ne_fatal_of_isFatal hfirst')
    obtain ⟨hsame, z, hz, hz'⟩ := ih (fun st' hst => hsteady st' (List.mem_cons_of_mem st hst))
      hrun' href' hrest hrest'
    refine ⟨?_, z, hz, hz'⟩
    rw [answers, answers, hanswer, hsame]

/-- In the reference, a statement that is refused leaves what is committed. -/
theorem content_of_refused (laws : TransactionLaws O) {pre : List LoggedStatement}
    {st : LoggedStatement} (hsteady : ∀ st' ∈ pre ++ [st], SteadyLine O st'.sql)
    (hrun : AtWork O p false x t) (href : AtWork O q true x r)
    (hnone : ∀ a ∈ answers (pre ++ [st]) t, a.isFatal = false)
    (hnone' : ∀ a ∈ answers (pre ++ [st]) r, a.isFatal = false)
    (hrefused : (Connection.execute st.sql (after pre r)).1 ≠ .ok ()) :
    O.content q (after (pre ++ [st]) r).disk = O.content q (after pre r).disk := by
  rw [answers_append] at hnone hnone'
  obtain ⟨hpre, hst⟩ := List.forall_mem_append.1 hnone
  obtain ⟨hpre', hst'⟩ := List.forall_mem_append.1 hnone'
  obtain ⟨-, y, hy, hy'⟩ := answers_alike
    (fun st' hst' => hsteady st' (List.mem_append_left _ hst')) hrun href hpre hpre'
  obtain ⟨-, z, -, hz', hsame⟩ := execute_alike
    (hsteady st (List.mem_append_right _ List.mem_cons_self)) hy hy'
    (ne_fatal_of_isFatal (hst _ List.mem_cons_self))
    (ne_fatal_of_isFatal (hst' _ List.mem_cons_self))
  have hlast : after (pre ++ [st]) r = (Connection.execute st.sql (after pre r)).2 :=
    after_append pre [st] r
  rw [hlast, laws.content_of_atWork hz', laws.content_of_atWork hy', hsame hrefused]

/-! ## Runs -/

/-- A replay that completes had no fatal answer. -/
theorem no_fatal_of_completed {log : ReplayLog} {report : Report}
    (h : (replay log t).result = .ok report) :
    ∀ a ∈ answers log.statements t, a.isFatal = false := by
  rcases no_fatal_or_first_fatal log.statements t with
    hnone | ⟨pre, st, post, message, hlog, hpre, hfatal⟩
  · exact hnone
  · rw [replay_of_first_fatal t hlog hpre hfatal] at h
    cases h

/-- A replay in a transaction that completes has committed what the reference has, and reports what
is refused there. -/
theorem replay_completed (laws : TransactionLaws O) {log : ReplayLog} {report : Report}
    (hsteady : ∀ st ∈ log.statements, SteadyLine O st.sql) (hrun : AtWork O p false O.fresh t)
    (hreport : (replay log t).result = .ok report) (href : Reference q r)
    (hnone : ∀ a ∈ answers log.statements r, a.isFatal = false) :
    report.failures = recordedFailures (answers log.statements r) ∧
      Keeping O p (O.content q (after log.statements r).disk) (replay log t).state := by
  have hrunning := no_fatal_of_completed hreport
  obtain ⟨hsame, y, hy, hy'⟩ := answers_alike hsteady hrun (href.atWork laws) hrunning hnone
  have hcommit := laws.commit_target hy
  rw [replay_of_no_fatal log t hrunning] at hreport ⊢
  generalize Connection.commit (after log.statements t) = got at hreport hcommit ⊢
  obtain ⟨fault | _, u⟩ := got
  · cases hreport
  · obtain ⟨-, hdone⟩ := hcommit.resolve_right nofun
    cases hreport
    refine ⟨congrArg recordedFailures hsame, ?_⟩
    have hkeeping := laws.keeping hdone
    rwa [laws.content_of_atWork hdone, ← laws.content_of_atWork hy'] at hkeeping

section Run

variable {config : Config} {disk : Disk} {log : ReplayLog}

theorem nonempty_of_completed {report : Report}
    (hlog : config.logFormat.parseFile disk config.replay.logPath = .ok log)
    (hreport : (runOn σ config disk).result = .ok report) (hstatus : report.status = .completed) :
    log.isEmpty = false := by
  by_contra hempty
  rw [Bool.not_eq_false] at hempty
  rw [runOn_of_empty hlog hempty] at hreport
  cases hreport
  cases hstatus

/-- The target of a run is at work before the first statement, in a transaction on an empty
database. -/
theorem atWork_of_started (laws : TransactionLaws O) (hdisk : disk.Numbered)
    (hfaults : some Fault.missing ∉ disk.faults) (ht : started σ config disk = .ok t) :
    AtWork O (databaseFile config.target.dataDir config.target.database) false O.fresh t ∧
      O.content (databaseFile config.target.dataDir config.target.database) t.disk =
        O.stored O.fresh := by
  obtain ⟨d, e, s, hd, hvacant, hopen, rfl⟩ := started_eq_ok hdisk hfaults ht
  obtain ⟨hsees, hcontent⟩ := laws.openDatabase hd hvacant hopen
  exact ⟨⟨rfl, s, rfl, hsees⟩, hcontent⟩

/-- A run that completes has started the database over, and its replay completed with the same
failures. -/
theorem replayed_of_completed {report : Report}
    (hlog : config.logFormat.parseFile disk config.replay.logPath = .ok log)
    (hreport : (runOn σ config disk).result = .ok report) (hstatus : report.status = .completed) :
    ∃ (t : Target σ) (replayed : Report), started σ config disk = .ok t ∧
      (replay log t).result = .ok replayed ∧ report.failures = replayed.failures ∧
      (runOn σ config disk).state = (replay log t).state.close.2.disk := by
  have hne := nonempty_of_completed hlog hreport hstatus
  cases ht : started σ config disk with
  | error fault =>
    rw [run_of_not_started hlog hne ht] at hreport
    cases hreport
  | ok t =>
    rw [run_of_started hlog hne ht] at hreport ⊢
    cases hreplayed : (replay log t).result with
    | error fault =>
      rw [hreplayed] at hreport
      cases hreport
    | ok replayed =>
      refine ⟨t, replayed, rfl, hreplayed, ?_, rfl⟩
      rw [hreplayed] at hreport
      cases hclose : (replay log t).state.close.1 with
      | error fault =>
        rw [hclose] at hreport
        cases hreport
      | ok _ =>
        rw [hclose] at hreport
        cases hreport
        rfl

/-- What is committed after a run that completes is what is committed in the reference run, where
the same lines are refused and have no effect. -/
theorem run_completed (laws : TransactionLaws O) (hdisk : disk.Numbered)
    (hfaults : some Fault.missing ∉ disk.faults)
    (hlog : config.logFormat.parseFile disk config.replay.logPath = .ok log)
    (hsteady : ∀ st ∈ log.statements, SteadyLine O st.sql) {report : Report}
    (hreport : (runOn σ config disk).result = .ok report) (hstatus : report.status = .completed) :
    ∃ t, started σ config disk = .ok t ∧
      ∀ q (r : Target σ), Reference q r → (∀ a ∈ answers log.statements r, a.isFatal = false) →
        report.failures = recordedFailures (answers log.statements r) ∧
        O.content (databaseFile config.target.dataDir config.target.database)
          (runOn σ config disk).state = O.content q (after log.statements r).disk ∧
        ∀ pre st post, log.statements = pre ++ st :: post →
          (Connection.execute st.sql (after pre r)).1 ≠ .ok () →
          O.content q (after (pre ++ [st]) r).disk = O.content q (after pre r).disk := by
  obtain ⟨t, replayed, ht, hreplayed, hfailures, hstate⟩ :=
    replayed_of_completed hlog hreport hstatus
  obtain ⟨hrun, -⟩ := atWork_of_started laws hdisk hfaults ht
  refine ⟨t, ht, fun q r href hnone => ?_⟩
  obtain ⟨hsame, hkeeping⟩ := replay_completed laws hsteady hrun hreplayed href hnone
  refine ⟨hfailures.trans hsame, hstate ▸ hkeeping.content_close, ?_⟩
  intro pre st post hstatements hrefused
  have hrunning := no_fatal_of_completed hreplayed
  rw [hstatements, List.append_cons] at hrunning hnone hsteady
  rw [answers_append] at hrunning hnone
  exact content_of_refused laws (fun st' hst => hsteady st' (List.mem_append_left _ hst)) hrun
    (href.atWork laws) (List.forall_mem_append.1 hrunning).1 (List.forall_mem_append.1 hnone).1
    hrefused

/-- A run that fails once the database has been started over leaves it empty, unless the changes
were committed and the close alone failed. -/
theorem run_failed (laws : TransactionLaws O) (hdisk : disk.Numbered)
    (hfaults : some Fault.missing ∉ disk.faults)
    (hlog : config.logFormat.parseFile disk config.replay.logPath = .ok log)
    (hsteady : ∀ st ∈ log.statements, SteadyLine O st.sql) (ht : started σ config disk = .ok t)
    {fault : Error} (hfault : (runOn σ config disk).result = .error fault) :
    (replay log t).result = .error fault ∧
        O.content (databaseFile config.target.dataDir config.target.database)
          (runOn σ config disk).state = O.stored O.fresh ∨
      (∃ report, (replay log t).result = .ok report) ∧
        (replay log t).state.close.1 = .error fault := by
  have hne : log.isEmpty = false := by
    by_contra hempty
    rw [Bool.not_eq_false] at hempty
    rw [runOn_of_empty hlog hempty] at hfault
    cases hfault
  obtain ⟨hrun, hempty⟩ := atWork_of_started laws hdisk hfaults ht
  obtain ⟨hfailed, -⟩ := laws.replay hsteady hrun
  rw [run_of_started hlog hne ht] at hfault ⊢
  cases hreplayed : (replay log t).result with
  | error cause =>
    rw [hreplayed] at hfault
    cases hfault
    exact .inl ⟨rfl, (hfailed _ hreplayed).content_close.trans hempty⟩
  | ok report =>
    rw [hreplayed] at hfault
    refine .inr ⟨⟨report, rfl⟩, ?_⟩
    cases hclose : (replay log t).state.close.1 with
    | error cause =>
      rw [hclose] at hfault
      cases hfault
      rfl
    | ok _ =>
      rw [hclose] at hfault
      cases hfault

end Run

/-- A log whose last line is refused. -/
def refusedLastLog : ReplayLog where
  source := some (.ofString "database0.log")
  blockStart := some 1
  statements := [⟨1, 1, "CREATE TABLE t (a)"⟩, ⟨2, 2, "INSERT INTO t VALUES (1)"⟩,
    ⟨3, 3, "INSERT INTO u VALUES (2)"⟩]

/-- The disk with nothing but that log. -/
def refusedLastDisk : Disk :=
  Disk.initial.place (.ofString "database0.log")
    (Utf8.ofString "CREATE TABLE t (a)\nINSERT INTO t VALUES (1)\nINSERT INTO u VALUES (2)")

/-- A target on a new file outside of any transaction. -/
def newTarget : FileTarget :=
  let (opened, disk) : Except EngineFault Sql.Session × Disk :=
    Engine.opening (.ofString "new.sqlite3") Disk.initial
  ⟨.ofString ".", 0, true, opened.toOption, none, disk⟩

theorem reference_newTarget : Reference (.ofString "new.sqlite3") newTarget where
  isOpen := rfl
  session := by
    have hopens : (Engine.opening (σ := Sql.Session) (.ofString "new.sqlite3")
        Disk.initial).1.toOption.isSome = true := by
      decide +kernel
    have hvacant : ∀ q ∈ filesOf (.ofString "new.sqlite3"),
        (Disk.initial.seat? q).any (fun place => (Disk.initial.node? place).isNone) = true ∧
          q.hasTrailingSlash = false := by
      decide +kernel
    rcases hopen : Engine.opening (σ := Sql.Session) (.ofString "new.sqlite3") Disk.initial with
      ⟨fault | s, d⟩
    · rw [hopen] at hopens
      cases hopens
    refine ⟨s, Disk.initial, ?_, Disk.numbered_initial, fun q hq => ?_, ?_⟩
    · simp only [newTarget, hopen, Except.toOption]
    · obtain ⟨hplace, hslash⟩ := hvacant q hq
      obtain ⟨place, hseat, hnode⟩ := (Option.any_eq_true ..).1 hplace
      exact ⟨⟨_, hseat, Option.isNone_iff_eq_none.1 hnode⟩, hslash⟩
    · simp only [newTarget, hopen]

end SqlReplay.Replay
