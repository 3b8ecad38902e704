import SqlReplay.Proofs.Replay.FaultIsolation
import SqlReplay.Proofs.Replay.StartOver

/-!
# Transactions of an engine

What a database engine promises of a session that has its database to itself, in terms of what the
session sees and of what is committed (`Observer`): a new file holds an empty database, outside of a
transaction all that is seen is committed, inside of one nothing is until it is committed as a
whole, and what is not committed when the session is closed is lost (`TransactionLaws`).  These are
the promises of every engine with atomic and isolated transactions.  From them it follows what the
statements of a run leave committed, first one by one and then for the run
(`TransactionLaws.runStatements`).
-/

namespace SqlReplay.Replay

open Storage

/-! ## Promises -/

/-- What can be told of the sessions of an engine and of the databases in files. -/
structure Observer (σ : Type) where
  /-- All that a statement can find out in a session. -/
  Seen : Type
  /-- What a database holds. -/
  Content : Type
  seen : σ → Disk → Seen
  /-- What is committed to the database at a path. -/
  content : Path → Disk → Content
  /-- What a database holds that a session sees, its own changes included. -/
  stored : Seen → Content
  /-- What a session sees that has just been opened on a new file. -/
  fresh : Seen
  /-- Whether a session is on the database at a path, and no other session is. -/
  Alone : Path → σ → Disk → Prop

variable {σ : Type} [Engine σ]

namespace Observer

variable (O : Observer σ)

/-- Whether a session that is alone with the database at a path, in a transaction or outside of one
as the flag tells, sees the given. -/
structure Sees (p : Path) (autocommits : Bool) (x : O.Seen) (s : σ) (d : Disk) : Prop where
  alone : O.Alone p s d
  autocommits : Engine.autocommits s = autocommits
  seen : O.seen s d = x

/-- Whether the given is committed to the database at a path, and stays so if a session is
closed. -/
def Keeps (p : Path) (c : O.Content) (s : σ) (d : Disk) : Prop :=
  O.content p d = c ∧ O.content p (Engine.close s d).2 = c

end Observer

/-- The promises of an engine on transactions. -/
structure TransactionLaws (O : Observer σ) : Prop where
  /-- A session that is opened where no file of the database is has a new one to itself. -/
  opening : ∀ {p d s e}, d.Numbered → AllVacant d p → Engine.opening p d = (.ok s, e) →
    O.Sees p true O.fresh s e
  /-- To set how long others are waited for changes nothing. -/
  wait : ∀ {p x ms s d s' d'}, O.Sees p true x s d → Engine.wait ms s d = (.ok (), s', d') →
    O.Sees p true x s' d'
  /-- A transaction begins with what is committed. -/
  begin : ∀ {p x s d s' d'}, O.Sees p true x s d → Engine.perform "BEGIN" s d = (.ok (), s', d') →
    O.Sees p false x s' d' ∧ O.content p d' = O.content p d
  /-- Outside of a transaction all that is seen is committed. -/
  outside : ∀ {p x s d}, O.Sees p true x s d → O.content p d = O.stored x
  /-- A statement that ends in the transaction commits nothing, nor does one that loses the
  session, and a close rolls back. -/
  isolated : ∀ {p x s d} line, O.Sees p false x s d →
    (∃ message, (Target.runLine line s d).1 = .error (.fatal message)) ∨
      Engine.autocommits (Target.runLine line s d).2.1 = false →
    O.Keeps p (O.content p d) (Target.runLine line s d).2.1 (Target.runLine line s d).2.2
  /-- A commit makes all that is seen durable. -/
  commit : ∀ {p x s d s' d'}, O.Sees p false x s d →
    Engine.perform "COMMIT" s d = (.ok (), s', d') → O.Sees p true x s' d'
  /-- A commit that fails commits nothing. -/
  commit_error : ∀ {p x s d fault s' d'}, O.Sees p false x s d →
    Engine.perform "COMMIT" s d = (.error fault, s', d') → O.Keeps p (O.content p d) s' d'
  /-- A close commits nothing. -/
  close : ∀ {p auto x s d}, O.Sees p auto x s d →
    O.content p (Engine.close s d).2 = O.content p d

/-- Whether a line does in a transaction what it does outside.  A line does not if it begins or ends
a transaction or a part of one, is refused in a transaction, sets how transactions work, puts checks
off to their end, or may be refused and yet have done something. -/
structure SteadyLine (O : Observer σ) (line : String) : Prop where
  /-- In a transaction, the transaction stays open. -/
  stays : ∀ {p x s d}, O.Sees p false x s d →
    (∃ message, (Target.runLine line s d).1 = .error (.fatal message)) ∨
      ∃ y, O.Sees p false y (Target.runLine line s d).2.1 (Target.runLine line s d).2.2
  /-- In a transaction and outside it does the same with what is seen, and if it is refused,
  nothing, unless either session is lost. -/
  alike : ∀ {p q x s d t e}, O.Sees p false x s d → O.Sees q true x t e →
    (∃ message, (Target.runLine line s d).1 = .error (.fatal message)) ∨
    (∃ message, (Target.runLine line t e).1 = .error (.fatal message)) ∨
      (Target.runLine line s d).1 = (Target.runLine line t e).1 ∧
        ∃ y, O.Sees p false y (Target.runLine line s d).2.1 (Target.runLine line s d).2.2 ∧
          O.Sees q true y (Target.runLine line t e).2.1 (Target.runLine line t e).2.2 ∧
          ((Target.runLine line t e).1 ≠ .ok () → y = x)

/-! ## Targets at work -/

/-- Whether a target is at work on the database at a path: it holds a session that is alone. -/
structure AtWork (O : Observer σ) (p : Path) (autocommits : Bool) (x : O.Seen) (t : Target σ) :
    Prop where
  isOpen : t.isOpen = true
  session : ∃ s, t.handle? = some s ∧ O.Sees p autocommits x s t.disk

/-- Whether an open target keeps what is committed to a database. -/
structure Keeping (O : Observer σ) (p : Path) (c : O.Content) (t : Target σ) : Prop where
  isOpen : t.isOpen = true
  session : ∃ s, t.handle? = some s ∧ O.Keeps p c s t.disk

section Targets

variable {O : Observer σ} {p q : Path} {auto : Bool} {x : O.Seen} {c : O.Content} {t u : Target σ}

theorem Keeping.content (h : Keeping O p c t) : O.content p t.disk = c := by
  obtain ⟨s, -, hkeeps⟩ := h.session
  exact hkeeps.1

theorem Keeping.content_close (h : Keeping O p c t) : O.content p t.close.2.disk = c := by
  obtain ⟨s, hs, hkeeps⟩ := h.session
  rw [close_of_handle hs]
  exact hkeeps.2

namespace TransactionLaws

variable (laws : TransactionLaws O)
include laws

theorem keeping (h : AtWork O p auto x t) : Keeping O p (O.content p t.disk) t := by
  obtain ⟨s, hs, hsees⟩ := h.session
  exact ⟨h.isOpen, s, hs, rfl, laws.close hsees⟩

/-- Outside of a transaction all that is seen is committed. -/
theorem content_of_atWork (h : AtWork O p true x t) : O.content p t.disk = O.stored x := by
  obtain ⟨s, -, hsees⟩ := h.session
  exact laws.outside hsees

/-- A steady line in a transaction commits nothing, and leaves the session at work unless it is
lost. -/
theorem execute {line : String} (hline : SteadyLine O line) (h : AtWork O p false x t) :
    Keeping O p (O.content p t.disk) (Connection.execute line t).2 ∧
      ((∃ message, (Connection.execute line t).1 = .error (.fatal message)) ∨
        ∃ y, AtWork O p false y (Connection.execute line t).2) := by
  obtain ⟨s, hs, hsees⟩ := h.session
  have hstays := hline.stays hsees
  rw [execute_of_handle h.isOpen hs]
  refine ⟨⟨h.isOpen, _, rfl, laws.isolated line hsees (hstays.imp_right ?_)⟩,
    hstays.imp_right ?_⟩
  · exact fun ⟨y, hy⟩ => hy.autocommits
  · exact fun ⟨y, hy⟩ => ⟨y, h.isOpen, _, rfl, hy⟩

/-- Steady statements in a transaction commit nothing, however far they come. -/
theorem runStatements {statements : List LoggedStatement}
    (hsteady : ∀ st ∈ statements, SteadyLine O st.sql) (h : AtWork O p false x t) :
    Keeping O p (O.content p t.disk) (runStatements statements t).state ∧
      ((runStatements statements t).lost = none →
        ∃ y, AtWork O p false y (Replay.runStatements statements t).state) := by
  induction statements generalizing x t with
  | nil => exact ⟨laws.keeping h, fun _ => ⟨x, h⟩⟩
  | cons st rest ih =>
    obtain ⟨hkeeping, hnext⟩ := laws.execute (hsteady st List.mem_cons_self) h
    have hrest : ∀ {y u}, AtWork O p false y u →
        Keeping O p (O.content p u.disk) (Replay.runStatements rest u).state ∧
          ((Replay.runStatements rest u).lost = none →
            ∃ z, AtWork O p false z (Replay.runStatements rest u).state) :=
      fun hu => ih (fun st' hst => hsteady st' (List.mem_cons_of_mem st hst)) hu
    have hcontent := hkeeping.content
    unfold Replay.runStatements
    generalize Connection.execute st.sql t = got at hkeeping hnext hcontent
    obtain ⟨(message | message) | _, u⟩ := got
    · exact ⟨hkeeping, fun hlost => absurd hlost (Option.some_ne_none _)⟩
    all_goals
      rcases hnext with ⟨message, hfatal⟩ | ⟨y, hwork⟩
      · cases hfatal
      · exact hcontent ▸ hrest hwork

/-- Committing a target in a transaction makes what it sees durable, or fails and commits
nothing. -/
theorem commit_target (h : AtWork O p false x t) :
    (Connection.commit t).1 = .ok () ∧ AtWork O p true x (Connection.commit t).2 ∨
      (∃ fault, (Connection.commit t).1 = .error fault) ∧
        Keeping O p (O.content p t.disk) (Connection.commit t).2 := by
  obtain ⟨s, hs, hsees⟩ := h.session
  rw [commit_of_handle h.isOpen hs, hsees.autocommits, if_neg Bool.false_ne_true]
  rcases hperform : Engine.perform "COMMIT" s t.disk with ⟨fault | _, s', d'⟩
  · exact .inr ⟨⟨_, rfl⟩, h.isOpen, s', rfl, laws.commit_error hsees hperform⟩
  · exact .inl ⟨rfl, h.isOpen, s', rfl, laws.commit hsees hperform⟩

/-- A replay of steady statements that fails commits nothing.  One that completes has committed what
it sees. -/
theorem replay {log : ReplayLog} (hsteady : ∀ st ∈ log.statements, SteadyLine O st.sql)
    (h : AtWork O p false x t) :
    (∀ fault, (replay log t).result = .error fault →
      Keeping O p (O.content p t.disk) (replay log t).state) ∧
    ∀ report, (Replay.replay log t).result = .ok report →
      ∃ y, AtWork O p true y (Replay.replay log t).state := by
  obtain ⟨hkeeping, hwork⟩ := laws.runStatements hsteady h
  have hcontent := hkeeping.content
  simp only [Replay.replay]
  cases hlost : (Replay.runStatements log.statements t).lost with
  | some fault =>
    refine ⟨fun _ _ => hkeeping, fun report hok => ?_⟩
    cases hok
  | none =>
    obtain ⟨y, hy⟩ := hwork hlost
    have hcommit := laws.commit_target hy
    rw [hcontent] at hcommit
    dsimp only
    generalize Connection.commit (Replay.runStatements log.statements t).state = got at hcommit
    obtain ⟨fault | _, u⟩ := got
    · refine ⟨fun _ _ => ?_, fun report hok => ?_⟩
      · rcases hcommit with ⟨hok, -⟩ | ⟨-, hkept⟩
        · cases hok
        · exact hkept
      · cases hok
    · refine ⟨fun fault hfault => ?_, fun _ _ => ⟨y, ?_⟩⟩
      · cases hfault
      · rcases hcommit with ⟨-, hdone⟩ | ⟨⟨fault, hfault⟩, -⟩
        · exact hdone
        · cases hfault

/-- A database that was opened in a new transaction is empty, and the session alone with it. -/
theorem openDatabase {ms : UInt64} {d e : Disk} {s : σ} (hd : d.Numbered) (hvacant : AllVacant d p)
    (hopen : Target.openDatabase ms p d = (.ok s, e)) :
    O.Sees p false O.fresh s e ∧ O.content p e = O.stored O.fresh := by
  obtain ⟨s₁, s₂, d₁, d₂, hopening, hwait, hbegin⟩ := openDatabase_eq_ok hopen
  have hwaiting := laws.wait (laws.opening hd hvacant hopening) hwait
  obtain ⟨hsees, hcontent⟩ := laws.begin hwaiting hbegin
  exact ⟨hsees, hcontent.trans (laws.outside hwaiting)⟩

end TransactionLaws

end Targets

end SqlReplay.Replay
