import SqlReplay.Proofs.Replay.Simulation

/-!
# Recorded connections

A recorded connection answers as the connection inside it does and keeps the calls that reach it,
oldest first.  Recording changes nothing: a run on a recorded connection has the result and the
events of the run on the bare one and leaves that connection inside (`replay_record`,
`resetAndReplay_record`).  So what a run asks of a connection can be read off the record.

The answers of a connection to statements that are executed one after the other (`answers`) are what
results, events and calls are compared with.
-/

namespace SqlReplay.Replay

/-- A call to a connection. -/
inductive Call
  | execute (sql : String)
  | commit
  | close
  | reset (database : String)
deriving DecidableEq

/-- A connection with the calls that have reached it. -/
structure Recorded (σ : Type) where
  calls : List Call
  inner : σ

variable {σ : Type}

namespace Recorded

/-- The connection before any call. -/
def fresh (s : σ) : Recorded σ := ⟨[], s⟩

/-- Passes a call on. -/
def pass {α : Type} (c : Call) (act : σ → α × σ) (r : Recorded σ) : α × Recorded σ :=
  ((act r.inner).1, ⟨r.calls ++ [c], (act r.inner).2⟩)

instance [Connection σ] : Connection (Recorded σ) where
  execute sql := pass (.execute sql) (Connection.execute sql)
  commit := pass .commit Connection.commit
  close := pass .close Connection.close
  isOpen r := Connection.isOpen r.inner
  reset database := pass (.reset database) (Connection.reset database)

variable [Connection σ]

theorem execute_eq (sql : String) (r : Recorded σ) :
    Connection.execute sql r = ((Connection.execute sql r.inner).1,
      (⟨r.calls ++ [.execute sql], (Connection.execute sql r.inner).2⟩ : Recorded σ)) :=
  rfl

theorem commit_eq (r : Recorded σ) :
    Connection.commit r = ((Connection.commit r.inner).1,
      (⟨r.calls ++ [.commit], (Connection.commit r.inner).2⟩ : Recorded σ)) :=
  rfl

theorem reset_eq (database : String) (r : Recorded σ) :
    Connection.reset database r = ((Connection.reset database r.inner).1,
      (⟨r.calls ++ [.reset database], (Connection.reset database r.inner).2⟩ : Recorded σ)) :=
  rfl

end Recorded

/-! ## Answers -/

/-- A statement with the answer to it. -/
abbrev Answer := LoggedStatement × Except ExecFault Unit

namespace Answer

/-- Whether the session is lost at the statement. -/
def isFatal (a : Answer) : Bool :=
  match a.2 with
  | .error fault => fault.isFatal
  | .ok _ => false

/-- Whether the statement is accepted. -/
def isOk (a : Answer) : Bool :=
  match a.2 with
  | .ok _ => true
  | .error _ => false

/-- The failure to record, if the statement is refused and the session goes on. -/
def failure? (a : Answer) : Option Failure :=
  match a.2 with
  | .error (.rejected message) => some (.ofStatement a.1 message)
  | _ => none

end Answer

variable [Connection σ]

/-- The answers to statements that are executed one after the other, whatever they are. -/
def answers : List LoggedStatement → σ → List Answer
  | [], _ => []
  | statement :: rest, s =>
    (statement, (Connection.execute statement.sql s).1) ::
      answers rest (Connection.execute statement.sql s).2

/-- The connection after statements that are executed one after the other. -/
def after (statements : List LoggedStatement) (s : σ) : σ :=
  statements.foldl (fun s statement => (Connection.execute statement.sql s).2) s

/-- The answers up to the first that loses the session, that one left out. -/
def survived (statements : List LoggedStatement) (s : σ) : List Answer :=
  (answers statements s).takeWhile (!·.isFatal)

theorem after_cons (statement : LoggedStatement) (rest : List LoggedStatement) (s : σ) :
    after (statement :: rest) s = after rest (Connection.execute statement.sql s).2 :=
  rfl

theorem after_append (pre post : List LoggedStatement) (s : σ) :
    after (pre ++ post) s = after post (after pre s) :=
  List.foldl_append

theorem length_answers (statements : List LoggedStatement) (s : σ) :
    (answers statements s).length = statements.length := by
  induction statements generalizing s with
  | nil => rfl
  | cons statement rest ih => simp only [answers, List.length_cons, ih]

theorem answers_append (pre post : List LoggedStatement) (s : σ) :
    answers (pre ++ post) s = answers pre s ++ answers post (after pre s) := by
  induction pre generalizing s with
  | nil => rfl
  | cons statement rest ih => simp only [List.cons_append, answers, ih, after_cons]

/-- An answer is fatal, a failure to record, or an acceptance. -/
theorem Answer.cases (a : Answer) :
    (∃ message, a.2 = .error (.fatal message)) ∨ (∃ message, a.2 = .error (.rejected message)) ∨
      a.2 = .ok () := by
  obtain ⟨statement, answer⟩ := a
  rcases answer with fault | _
  · cases fault with
    | fatal message => exact Or.inl ⟨message, rfl⟩
    | rejected message => exact Or.inr (Or.inl ⟨message, rfl⟩)
  · exact Or.inr (Or.inr rfl)

/-- Without a fatal answer, every answer is an acceptance or a failure to record. -/
theorem countP_isOk_add_length_failures {as : List Answer} (h : ∀ a ∈ as, a.isFatal = false) :
    as.countP Answer.isOk + (as.filterMap Answer.failure?).length = as.length := by
  induction as with
  | nil => rfl
  | cons a rest ih =>
    have hrest := ih fun b hb => h b (List.mem_cons_of_mem a hb)
    rcases a.cases with ⟨message, ha⟩ | ⟨message, ha⟩ | ha
    · have hfatal := h a List.mem_cons_self
      simp [Answer.isFatal, ha, ExecFault.isFatal] at hfatal
    · simp only [List.countP_cons, List.filterMap_cons, Answer.isOk, Answer.failure?, ha,
        List.length_cons]
      simp only [Bool.false_eq_true, if_false]
      omega
    · simp only [List.countP_cons, List.filterMap_cons, Answer.isOk, Answer.failure?, ha,
        List.length_cons, if_true]
      omega

/-! ## The record -/

theorem answers_record (statements : List LoggedStatement) (r : Recorded σ) :
    answers statements r = answers statements r.inner := by
  induction statements generalizing r with
  | nil => rfl
  | cons statement rest ih => simp only [answers, Recorded.execute_eq, ih]

/-- Statements that are executed one after the other are recorded in their order. -/
theorem after_record (statements : List LoggedStatement) (r : Recorded σ) :
    after statements r =
      ⟨r.calls ++ statements.map (.execute ·.sql), after statements r.inner⟩ := by
  induction statements generalizing r with
  | nil => simp only [after, List.foldl_nil, List.map_nil, List.append_nil]
  | cons statement rest ih =>
    rw [after_cons, ih, Recorded.execute_eq]
    simp only [List.map_cons, List.append_assoc, List.singleton_append, after_cons]

/-! ## Recording changes nothing -/

theorem simulation_record :
    Simulation (fun _ => True) fun (r : Recorded σ) (s : σ) => r.inner = s where
  execute h _ _ := by
    subst h
    exact ⟨rfl, rfl⟩
  commit h := by
    subst h
    exact ⟨rfl, rfl⟩

/-- A replay goes on a recorded connection as on the bare one. -/
theorem replay_record (log : ReplayLog) (r : Recorded σ) :
    (replay log r).result = (replay log r.inner).result ∧
      (replay log r).events = (replay log r.inner).events ∧
      (replay log r).state.inner = (replay log r.inner).state :=
  simulation_record.replay rfl fun _ _ => trivial

/-- A run that starts over goes on a recorded connection as on the bare one. -/
theorem resetAndReplay_record (database : String) (log : ReplayLog) (r : Recorded σ) :
    (resetAndReplay database log r).result = (resetAndReplay database log r.inner).result ∧
      (resetAndReplay database log r).events = (resetAndReplay database log r.inner).events ∧
      (resetAndReplay database log r).state.inner =
        (resetAndReplay database log r.inner).state := by
  unfold resetAndReplay
  split
  · exact ⟨rfl, rfl, rfl⟩
  · simp only [resetDatabase, Recorded.reset_eq]
    rcases Connection.reset database r.inner with ⟨answer, s⟩
    cases answer with
    | error fault => exact ⟨rfl, rfl, rfl⟩
    | ok _ =>
      obtain ⟨hresult, hevents, hstate⟩ :=
        replay_record log (⟨r.calls ++ [.reset database], s⟩ : Recorded σ)
      exact ⟨by simp only [hresult], by simp only [hevents], hstate⟩

end SqlReplay.Replay
