import SqlReplay.Proofs.Sql.Names

/-!
# A session alone with its file

What a session does that nobody else disturbs: it has its file for itself, its locks are always
granted and no fault strikes.  Then neither the disk nor the locks matter any more, and what is left
is two databases: the one that the file holds and the one with the changes that are not committed
(`Solo`).  The files that others may hold come in through what attaching them would find (`Offer`).
-/

namespace SqlReplay.Sql

/-- What is found where a file is to be attached. -/
inductive Offer
  /-- No file can be opened there. -/
  | refused
  /-- The file of the session itself. -/
  | own
  | other (content : Except Error Database)

/-- A session that is alone with its file. -/
structure Solo where
  /-- The database in the file, if the file is not empty. -/
  stored : Option Database
  /-- The database with the changes that are not committed. -/
  working : Option Database
  autocommit : Bool
  pageLimit : Option Nat
  /-- The databases attached by name, none where it is the session's own file. -/
  attached : List (String × Option Database)

namespace Solo

/-- The session that has just been opened on an empty file. -/
def fresh : Solo := ⟨none, none, true, none, []⟩

/-! ## Content -/

/-- The committed database. -/
def committed (a : Solo) : Database := a.stored.getD .empty

/-- The database as the session sees it. -/
def view (a : Solo) : Database := a.working.getD a.committed

/-- The number of pages that the database takes at the moment. -/
def pages (a : Solo) : Nat := ((a.working.or a.stored).map Database.pageCount).getD 0

/-- The databases in which names are looked up. -/
def schema (a : Solo) : Schema := ⟨a.view, a.attached.map fun x => (x.1, x.2.getD a.committed)⟩

/-! ## Transactions -/

/-- The session without the changes that are not committed. -/
def rollBack (a : Solo) : Solo := { a with working := none, autocommit := true }

/-- The session with its changes committed. -/
def commit (a : Solo) : Solo :=
  { a with stored := a.working.or a.stored, working := none, autocommit := true }

/-- The session that has begun to write: an empty file has its first page. -/
def begun (a : Solo) : Solo := if 0 < a.pages then a else { a with working := some .empty }

/-- The session with a changed database, if the change writes. -/
def holding (a : Solo) (writes : Bool) (db : Database) : Solo :=
  if writes then { a with working := some db } else a

/-- What a change makes of a database, unless it takes more pages and then there are too many. -/
def outcome (a : Solo) (db : Database) (c : Change) : Except Error Database :=
  match c.run db with
  | .error fault => .error fault
  | .ok changed =>
    if db.pageCount < changed.pageCount && a.pageLimit.getD changed.pageCount < changed.pageCount
    then .error .full
    else .ok changed

/-- The session after a failure: outside a transaction nothing of the change stays. -/
def givenUp (a : Solo) : Solo := if a.autocommit then a.rollBack else a

/-- The session after a success: outside a transaction the change is committed. -/
def settled (a : Solo) : Solo := if a.autocommit then a.commit else a

/-- Carries out a change. -/
def change (a : Solo) (c : Change) : Except Error Unit × Solo :=
  let writes := c.writes a.begun.view
  match a.begun.outcome a.begun.view c with
  | .error fault => (.error fault, (a.begun.holding writes a.begun.view).givenUp)
  | .ok changed => (.ok (), (a.begun.holding writes changed).settled)

/-- Begins a transaction. -/
def begin (a : Solo) (mode : BeginMode) : Except Error Unit × Solo :=
  let a := if mode = .deferred then a else a.begun
  if a.autocommit then (.ok (), { a with autocommit := false }) else (.error .nestedTransaction, a)

/-- Attaches what is offered at a file under a name. -/
def attach (a : Solo) (offers : String → Offer) (file name : String) : Except Error Unit × Solo :=
  if sameName name "main" || sameName name "temp" || a.attached.any (sameName name ·.1) then
    (.error (.databaseInUse name), a)
  else if file.isEmpty || file = ":memory:" then (.ok (), a)
  else match offers file with
    | .refused => (.error (.cannotAttach file), a)
    | .own => (.ok (), { a with attached := a.attached ++ [(name, none)] })
    | .other (.ok db) => (.ok (), { a with attached := a.attached ++ [(name, some db)] })
    | .other (.error fault) => (.error fault, a)

/-! ## Statements -/

/-- Carries out a prepared operation. -/
def step (a : Solo) (offers : String → Offer) : Operation → Except Error Unit × Solo
  | .begin mode => a.begin mode
  | .commit => if a.autocommit then (.error .noTransactionToCommit, a) else (.ok (), a.commit)
  | .rollback => if a.autocommit then (.error .noTransactionToRollBack, a) else (.ok (), a.rollBack)
  | .limitPages n => (.ok (), { a with pageLimit := some (max n a.pages) })
  | .attach file name => a.attach offers file name
  | .query _ => (.ok (), a)
  | .change c => a.change c
  | .outdated _ _ => (.ok (), a)

/-- Prepares the first statement among tokens. -/
def prepare (a : Solo) (ts : List Token) : Except Error (Option (Operation × List Token)) :=
  (Session.prepareIn (.ok a.schema) ts).1

/-! ## What the parts do -/

@[simp] theorem stored_begun (a : Solo) : a.begun.stored = a.stored := by
  unfold begun
  split <;> rfl

@[simp] theorem autocommit_begun (a : Solo) : a.begun.autocommit = a.autocommit := by
  unfold begun
  split <;> rfl

@[simp] theorem pageLimit_begun (a : Solo) : a.begun.pageLimit = a.pageLimit := by
  unfold begun
  split <;> rfl

@[simp] theorem attached_begun (a : Solo) : a.begun.attached = a.attached := by
  unfold begun
  split <;> rfl

theorem pageCount_pos (db : Database) : 0 < db.pageCount := by
  unfold Database.pageCount
  omega

/-- The pages are counted by what the session has. -/
theorem pages_pos_iff (a : Solo) :
    0 < a.pages ↔ a.working.isSome = true ∨ a.stored.isSome = true := by
  unfold pages
  cases a.working with
  | some db => simp [pageCount_pos]
  | none =>
    cases a.stored with
    | some db => simp [pageCount_pos]
    | none => simp

theorem begun_of_pos {a : Solo} (h : 0 < a.pages) : a.begun = a := by
  unfold begun
  rw [if_pos h]

theorem begun_of_not_pos {a : Solo} (h : ¬ 0 < a.pages) :
    a.begun = { a with working := some .empty } := by
  unfold begun
  rw [if_neg h]

theorem pages_begun_pos (a : Solo) : 0 < a.begun.pages := by
  unfold begun
  split
  · assumption
  · simp [pages, pageCount_pos]

/-- A session that begins to write sees the same database. -/
theorem view_begun (a : Solo) : a.begun.view = a.view := by
  unfold begun
  split
  · rfl
  · rename_i h
    rw [pages_pos_iff, not_or, Bool.not_eq_true, Bool.not_eq_true, Option.isSome_eq_false_iff,
      Option.isSome_eq_false_iff, Option.isNone_iff_eq_none, Option.isNone_iff_eq_none] at h
    simp only [view, committed, h.1, h.2, Option.getD_some, Option.getD_none]

@[simp] theorem stored_holding (a : Solo) (writes : Bool) (db : Database) :
    (a.holding writes db).stored = a.stored := by
  unfold holding
  split <;> rfl

/-- An outcome is what the change gives. -/
theorem run_of_outcome {a : Solo} {db changed : Database} {c : Change}
    (h : a.outcome db c = .ok changed) : c.run db = .ok changed := by
  unfold outcome at h
  split at h
  · cases h
  · rename_i hrun
    split at h
    · cases h
    · rw [hrun, h]

theorem view_holding (a : Solo) (writes : Bool) (db : Database) :
    (a.holding writes db).view = if writes then db else a.view := by
  cases writes <;> rfl

@[simp] theorem autocommit_holding (a : Solo) (writes : Bool) (db : Database) :
    (a.holding writes db).autocommit = a.autocommit := by
  unfold holding
  split <;> rfl

@[simp] theorem pageLimit_holding (a : Solo) (writes : Bool) (db : Database) :
    (a.holding writes db).pageLimit = a.pageLimit := by
  unfold holding
  split <;> rfl

@[simp] theorem attached_holding (a : Solo) (writes : Bool) (db : Database) :
    (a.holding writes db).attached = a.attached := by
  unfold holding
  split <;> rfl

theorem view_commit (a : Solo) : a.commit.view = a.view := by
  simp only [commit, view, committed, Option.getD_none]
  cases a.working <;> rfl

@[simp] theorem view_rollBack (a : Solo) : a.rollBack.view = a.committed := rfl

end Solo

end SqlReplay.Sql
