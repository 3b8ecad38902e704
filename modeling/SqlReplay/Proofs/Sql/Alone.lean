import Mathlib.Data.List.Forall2
import SqlReplay.Proofs.Sql.Site

/-!
# Alone with a file

On a disk that keeps its site, a session does what the session alone does that has its two databases
(`Site.Mirrors`), with the same result, unless a fault strikes (`Site.Answers`).  A fault ends the
session: the failure is fatal, and the file holds what was committed before.  Every operation of a
session is shown to answer so, the small ones first (`Site.Mirrors.step`).
-/

namespace SqlReplay.Sql

open Storage

namespace Site

/-! ## Relations -/

/-- Whether a name is attached to the same database on both sides. -/
def Shows (w : Site) (d : Disk) (x : String × Id) (y : String × Option Database) : Prop :=
  x.1 = y.1 ∧ match y.2 with
    | none => x.2 = w.file
    | some db => x.2 ≠ w.file ∧ x.2 < d.nextId ∧ Session.committed d x.2 = .ok db

/-- Whether a session has the databases of one that is alone, whatever locks it holds. -/
structure Follows (w : Site) (a : Solo) (s : Session) (d : Disk) : Prop where
  serves : w.Serves s
  kept : w.Kept a.stored d
  autocommit : s.autocommit = a.autocommit
  working : s.working = a.working
  pageLimit : s.pageLimit = a.pageLimit
  /-- What the session knows names as they are. -/
  known : ∀ db, s.known = some db → SameNames db a.view
  attached : List.Forall₂ (w.Shows d) s.attached a.attached
  /-- Changes that are not committed have a journal. -/
  journal : a.working.isSome = true → ∃ id, d.node? w.beside = some (.file id)

/-- Whether a session is one that is alone.  If it has the lock for writing, the file has its first
page. -/
structure Mirrors (w : Site) (a : Solo) (s : Session) (d : Disk) : Prop
    extends w.Follows a s d where
  writing : s.lock? d = some .reserved ∨ s.lock? d = some .exclusive → 0 < a.pages

/-- Whether an operation ended because a fault struck, with the given database still in the file. -/
structure Struck (w : Site) (stored : Option Database)
    (got : Except Error Unit × Session × Disk) : Prop where
  fault : ∃ fault, some fault ∈ w.origin.faults
  fatal : ∃ e, got.1 = .error e ∧ e.isFatal = true
  serves : w.Serves got.2.1
  kept : w.Kept stored got.2.2

/-- Whether an operation of a session gave what it gives a session that is alone, or a fault
struck. -/
def Answers (w : Site) (a : Solo) (want : Except Error Unit × Solo)
    (got : Except Error Unit × Session × Disk) : Prop :=
  got.1 = want.1 ∧ w.Mirrors want.2 got.2.1 got.2.2 ∨ w.Struck a.stored got

variable {w : Site} {stored : Option Database} {a : Solo} {s : Session} {d e : Disk}

theorem Shows.older {x : String × Id} {y : String × Option Database} (h : w.Shows d x y)
    (hde : w.Older d e) : w.Shows e x y := by
  obtain ⟨hname, hfile⟩ := h
  refine ⟨hname, ?_⟩
  cases hy : y.2 with
  | none =>
    rw [hy] at hfile
    exact hfile
  | some db =>
    rw [hy] at hfile
    obtain ⟨hne, hlt, hcommitted⟩ := hfile
    exact ⟨hne, Nat.lt_of_lt_of_le hlt hde.nextId_le,
      (committed_congr (hde.file? x.2 hlt hne)).trans hcommitted⟩

/-- A session goes on as before on a disk that differs in locks and new files only. -/
theorem Follows.move (h : w.Follows a s d) (hkept : w.Kept a.stored e) (hde : w.Older d e)
    (hjournal : a.working.isSome = true → ∃ id, e.node? w.beside = some (.file id)) :
    w.Follows a s e :=
  { h with
    kept := hkept
    attached := h.attached.imp fun _ _ hx => hx.older hde
    journal := hjournal }

/-- A session goes on as before if it looks names up anew. -/
theorem Follows.know (h : w.Follows a s d) {db : Database} (hdb : SameNames db a.view) :
    w.Follows a { s with known := some db } d :=
  { h with
    serves := ⟨h.serves.id, h.serves.file, h.serves.path⟩
    known := fun _ e => Option.some.inj e ▸ hdb }

/-- A session goes on as before if it forgets what it knows. -/
theorem Follows.forget (h : w.Follows a s d) : w.Follows a { s with known := none } d :=
  { h with
    serves := ⟨h.serves.id, h.serves.file, h.serves.path⟩
    known := nofun }

/-- A session writes beside its journal. -/
theorem Follows.write (h : w.Follows a s d) (hjournal : ∃ id, d.node? w.beside = some (.file id))
    {db : Database} (hknown : ∀ known, s.known = some known → SameNames known db) :
    w.Follows { a with working := some db } { s with working := some db } d :=
  { h with
    serves := ⟨h.serves.id, h.serves.file, h.serves.path⟩
    working := rfl
    known := hknown
    journal := fun _ => hjournal }

theorem Mirrors.know (h : w.Mirrors a s d) {db : Database} (hdb : SameNames db a.view) :
    w.Mirrors a { s with known := some db } d :=
  ⟨h.toFollows.know hdb, h.writing⟩

theorem Mirrors.forget (h : w.Mirrors a s d) : w.Mirrors a { s with known := none } d :=
  ⟨h.toFollows.forget, h.writing⟩

/-! ## Locks -/

theorem Kept.otherLocks (h : w.Kept stored d) (hs : w.Serves s) : s.otherLocks d = [] := by
  obtain ⟨f, hf, -, hlocks⟩ := h.file
  simp only [Session.otherLocks, Session.locks, hs.file, hf, Option.map_some, Option.getD_some,
    List.map_eq_nil_iff, List.filter_eq_nil_iff, decide_eq_true_eq, not_not, hs.id]
  exact hlocks

theorem Kept.barred (h : w.Kept stored d) (hs : w.Serves s) : s.barred d = false := by
  simp only [Session.barred, h.otherLocks hs, List.any_nil]

theorem Kept.setLock (h : w.Kept stored d) (hs : w.Serves s) (level : Option LockLevel) :
    w.Kept stored (s.setLock d level) := by
  unfold Session.setLock
  rw [hs.file]
  refine h.modifyFile _ fun f hcontent hlocks => ?_
  cases level with
  | none => exact ⟨hcontent, fun l hl => hlocks l (List.mem_of_mem_filter hl)⟩
  | some level =>
    refine ⟨hcontent, fun l hl => ?_⟩
    rcases List.mem_cons.1 hl with rfl | hl
    · exact hs.id
    · exact hlocks l (List.mem_of_mem_filter hl)

theorem Kept.lock?_setLock (h : w.Kept stored d) (hs : w.Serves s) (level : Option LockLevel) :
    s.lock? (s.setLock d level) = level := by
  obtain ⟨f, hf, -⟩ := h.file
  rw [← hs.file] at hf
  simp only [Session.lock?, Session.locks, Session.setLock, Disk.file?_modifyFile, if_true, hf,
    Option.map_some, Option.getD_some]
  cases level with
  | none =>
    rw [lookup_filter_key_ne, if_pos rfl]
  | some level => simp only [List.lookup_cons_self]

theorem Serves.older_setLock (hs : w.Serves s) (d : Disk) (level : Option LockLevel) :
    w.Older d (s.setLock d level) := by
  unfold Session.setLock
  rw [hs.file]
  exact w.older_modifyFile d _

@[simp] theorem node?_setLock (s : Session) (d : Disk) (level : Option LockLevel)
    (place : Location) : (s.setLock d level).node? place = d.node? place :=
  Disk.node?_modifyFile ..

theorem Follows.setLock (h : w.Follows a s d) (level : Option LockLevel) :
    w.Follows a s (s.setLock d level) :=
  h.move (h.kept.setLock h.serves level) (h.serves.older_setLock d level)
    (by simpa only [node?_setLock] using h.journal)

/-- A session takes a lock, for writing only if the file has its first page. -/
theorem Follows.mirrors_setLock (h : w.Follows a s d) {level : Option LockLevel}
    (hlevel : level = some .reserved ∨ level = some .exclusive → 0 < a.pages) :
    w.Mirrors a s (s.setLock d level) :=
  ⟨h.setLock level, by rwa [h.kept.lock?_setLock h.serves]⟩

theorem Follows.unlock (h : w.Follows a s d) : w.Mirrors a s (s.setLock d none) :=
  h.mirrors_setLock (by simp)

theorem Mirrors.lockShared (h : w.Mirrors a s d) :
    ∃ e, s.lockShared d = .ok e ∧ w.Mirrors a s e := by
  unfold Session.lockShared
  cases s.lock? d with
  | some level => exact ⟨d, rfl, h⟩
  | none =>
    rw [if_neg (by rw [h.kept.barred h.serves]; exact Bool.false_ne_true)]
    exact ⟨_, rfl, h.mirrors_setLock (by simp)⟩

theorem Mirrors.lockReserved (h : w.Mirrors a s d) :
    ∃ e, s.lockReserved d = .ok e ∧ w.Follows a s e := by
  obtain ⟨e, he, hfollows⟩ := h.lockShared
  simp only [Session.lockReserved, he, hfollows.kept.otherLocks hfollows.serves, List.any_nil,
    Bool.false_eq_true, if_false]
  split
  · exact ⟨_, rfl, hfollows.setLock _⟩
  · exact ⟨e, rfl, hfollows.toFollows⟩

theorem Kept.lockExclusive (h : w.Kept stored d) (hs : w.Serves s) :
    s.lockExclusive d = (.ok (), s.setLock d (some .exclusive)) := by
  simp only [Session.lockExclusive, h.otherLocks hs, List.isEmpty_nil, if_true]

/-! ## Content -/

theorem Follows.view (h : w.Follows a s d) : s.view d = .ok a.view := by
  simp only [Session.view, h.working, Solo.view]
  cases a.working with
  | some db => rfl
  | none =>
    rw [h.serves.file]
    exact h.kept.committed

theorem Follows.pagesInUse (h : w.Follows a s d) : s.pagesInUse d = a.pages := by
  obtain ⟨f, hf, hcontent, -⟩ := h.kept.file
  simp only [Session.pagesInUse, h.working, Solo.pages, h.serves.file, hf]
  cases a.working with
  | some db => rfl
  | none =>
    simp only [hcontent]
    cases a.stored <;> rfl

theorem Kept.inPlace (h : w.Kept stored d) (hs : w.Serves s) : s.inPlace d = true := by
  simp only [Session.inPlace, hs.path, h.locate_path, hs.file, decide_true]

theorem Struck.intro (hs : w.Serves s) (hd : w.Kept stored d) {fault : Fault}
    (hfault : some fault ∈ w.origin.faults) {e : Error} (he : e.isFatal = true) :
    w.Struck stored (.error e, s, d) :=
  ⟨⟨fault, hfault⟩, ⟨e, rfl, he⟩, hs, hd⟩

/-! ## The journal -/

/-- Opening the journal fails by a fault, or leaves the journal beside the file. -/
theorem Follows.openJournal (h : w.Follows a s d) :
    (∃ e, s.openJournal d = (.ok (), e) ∧ w.Follows a s e ∧
      ∃ id, e.node? w.beside = some (.file id)) ∨
    ∃ fault, some fault ∈ w.origin.faults ∧ s.openJournal d = (.error .cannotOpen, d.spent) := by
  unfold Session.openJournal
  by_cases hworking : s.working.isSome = true
  · rw [if_pos hworking]
    exact Or.inl ⟨d, rfl, h, h.journal (by rwa [h.working] at hworking)⟩
  · rw [if_neg hworking, h.kept.inPlace h.serves, Bool.not_true, Bool.and_false,
      if_neg Bool.false_ne_true]
    have hpath : s.journal = w.path.withSuffix "-journal" := by
      rw [Session.journal, h.serves.path]
    rw [hpath]
    rcases h.kept.openFile w.seat_journal w.journal_slash with
      ⟨fault, hfault, hopen⟩ | ⟨id, e, hopen, hkept, holder, hnode, -, -⟩
    · exact Or.inr ⟨fault, hfault, by simp only [hopen]⟩
    · exact Or.inl ⟨e, by simp only [hopen], h.move hkept holder fun _ => ⟨id, hnode⟩, id, hnode⟩

/-- Removing the journal fails by a fault, removes it, or finds none. -/
theorem Kept.removeJournal (h : w.Kept stored d) (hs : w.Serves s) :
    ∃ result e, d.removeFile s.journal = (result, e) ∧ w.Kept stored e ∧ w.Older d e ∧
      ((∃ id, d.node? w.beside = some (.file id)) → result = .ok () ∨
        ∃ fault, some fault ∈ w.origin.faults) := by
  have hpath : s.journal = w.path.withSuffix "-journal" := by rw [Session.journal, hs.path]
  rw [hpath]
  rcases Disk.removeFile_of_seat? ((h.seat? _).trans w.seat_journal) w.journal_slash with
    ⟨fault, hfault, hremove⟩ | ⟨id, hnode, hremove⟩ | ⟨hnode, hremove⟩
  · exact ⟨_, _, hremove, h.spent, w.older_spent d, fun _ => Or.inr ⟨fault, h.faults.subset hfault⟩⟩
  · refine ⟨_, _, hremove, ?_, (w.older_spent d).trans (w.older_clearNode _ _),
      fun _ => Or.inl rfl⟩
    have hempty : d.spent.holds w.beside = .plain [] := by
      rw [Disk.holds_spent, h.elsewhere w.beside w.beside_ne, w.journal_empty]
    have hne := w.beside_ne
    rcases hbeside : w.beside with _ | ⟨name, dir⟩
    · rw [hbeside] at hnode
      cases hnode
    · rw [hbeside] at hempty hne hnode
      exact h.spent.clearNode hne (by simp [hnode]) hempty
  · refine ⟨_, _, hremove, h.spent, w.older_spent d, fun ⟨id, hid⟩ => ?_⟩
    rw [hnode] at hid
    cases hid

/-! ## Beginning to write -/

theorem Follows.firstPage (h : w.Follows a s d) :
    w.Answers a (.ok (), a.begun) (s.firstPage d) := by
  simp only [Session.firstPage, h.view, h.pagesInUse]
  by_cases hpages : 0 < a.pages
  · rw [if_pos hpages, Solo.begun_of_pos hpages]
    exact Or.inl ⟨rfl, h, fun _ => hpages⟩
  · rw [if_neg hpages]
    rcases h.openJournal with ⟨e, hopen, hfollows, hjournal⟩ | ⟨fault, hfault, hopen⟩
    · simp only [hopen]
      have hview : .empty = a.view := by
        have hbegun := a.view_begun
        rwa [Solo.begun_of_not_pos hpages] at hbegun
      have hknown : ∀ known, s.known = some known → SameNames known .empty := by
        rw [hview]
        exact hfollows.known
      have hwritten := hfollows.write hjournal hknown
      rw [← Solo.begun_of_not_pos hpages] at hwritten
      exact Or.inl ⟨rfl, hwritten, fun _ => a.pages_begun_pos⟩
    · simp only [hopen]
      exact Or.inr (Struck.intro h.serves h.kept.spent hfault rfl)

theorem Struck.relax {r : Except Error Unit × Session × Disk} (h : w.Struck stored r) :
    w.Struck stored (r.1, r.2.1, r.2.1.relax r.2.2) := by
  refine ⟨h.fault, h.fatal, h.serves, ?_⟩
  unfold Session.relax
  split
  · exact h.kept.setLock h.serves none
  · exact h.kept

/-- A session that has the lock begins to write, and if it cannot, lets go of the lock. -/
theorem Follows.firstPage_relax (h : w.Follows a s d) :
    w.Answers a (.ok (), a.begun) (match s.firstPage d with
      | (.ok (), s, d) => (.ok (), s, d)
      | (.error fault, s, d) => (.error fault, s, s.relax d)) := by
  have hpage := h.firstPage
  generalize s.firstPage d = got at hpage ⊢
  obtain ⟨result, s', e⟩ := got
  rcases hpage with ⟨hresult, hmirrors⟩ | hstruck
  · cases hresult
    exact Or.inl ⟨rfl, hmirrors⟩
  · cases result with
    | ok _ =>
      obtain ⟨_, hfatal, -⟩ := hstruck.fatal
      cases hfatal
    | error fault => exact Or.inr hstruck.relax

theorem Mirrors.beginWrite (h : w.Mirrors a s d) :
    w.Answers a (.ok (), a.begun) (s.beginWrite d) := by
  obtain ⟨e, he, hfollows⟩ := h.lockReserved
  simp only [Session.beginWrite, he]
  exact hfollows.firstPage_relax

theorem Mirrors.pages_pos_of_isWriting (h : w.Mirrors a s d) (hwriting : s.isWriting d = true) :
    0 < a.pages := by
  simp only [Session.isWriting, Bool.or_eq_true, decide_eq_true_eq, or_assoc] at hwriting
  rcases hwriting with hworking | hlock
  · rw [h.working] at hworking
    exact a.pages_pos_iff.2 (Or.inl hworking)
  · exact h.writing hlock

theorem Mirrors.beginAlone (h : w.Mirrors a s d) :
    w.Answers a (.ok (), a.begun) (s.beginAlone d) := by
  unfold Session.beginAlone
  by_cases hwriting : s.isWriting d = true
  · rw [if_pos hwriting, Solo.begun_of_pos (h.pages_pos_of_isWriting hwriting)]
    exact Or.inl ⟨rfl, h⟩
  · obtain ⟨e, he, hfollows⟩ := h.lockReserved
    rw [if_neg hwriting]
    simp only [he, hfollows.kept.lockExclusive hfollows.serves]
    exact (hfollows.setLock _).firstPage_relax

/-! ## Ending a transaction -/

theorem Kept.dropJournal (h : w.Kept stored d) (hs : w.Serves s) :
    w.Kept stored (if s.working.isSome then (d.removeFile s.journal).2 else d) ∧
      w.Older d (if s.working.isSome then (d.removeFile s.journal).2 else d) := by
  split
  · obtain ⟨result, e, hremove, hkept, holder, -⟩ := h.removeJournal hs
    rw [hremove]
    exact ⟨hkept, holder⟩
  · exact ⟨h, Older.refl w d⟩

theorem Kept.rollBack (h : w.Kept stored d) (hs : w.Serves s) :
    w.Serves (s.rollBack d).1 ∧ w.Kept stored (s.rollBack d).2 :=
  ⟨⟨hs.id, hs.file, hs.path⟩, (h.dropJournal hs).1.setLock hs none⟩

theorem Follows.knownAfterRollback (h : w.Follows a s d) {db : Database}
    (hdb : s.knownAfterRollback d = some db) : SameNames db a.committed := by
  have hcommitted := h.kept.committed
  unfold Session.knownAfterRollback at hdb
  rw [h.serves.file, hcommitted, h.working] at hdb
  cases hworking : a.working with
  | none =>
    simp only [hworking] at hdb
    have hview : a.view = a.committed := by simp only [Solo.view, hworking, Option.getD_none]
    exact hview ▸ h.known db hdb
  | some changed =>
    simp only [hworking] at hdb
    cases hknown : s.known with
    | none =>
      rw [hknown] at hdb
      cases hdb
    | some known =>
      simp only [hknown] at hdb
      split at hdb
      · exact Option.some.inj hdb ▸ SameNames.refl _
      · cases hdb

theorem Follows.rollBack (h : w.Follows a s d) :
    w.Mirrors a.rollBack (s.rollBack d).1 (s.rollBack d).2 := by
  obtain ⟨hkept, holder⟩ := h.kept.dropJournal h.serves
  generalize hdrop : (if s.working.isSome then (d.removeFile s.journal).2 else d) = e
    at hkept holder
  have hdropped : w.Follows a.rollBack (s.rollBack d).1 e := {
    serves := ⟨h.serves.id, h.serves.file, h.serves.path⟩
    kept := hkept
    autocommit := rfl
    working := rfl
    pageLimit := h.pageLimit
    known := fun _ hdb => h.knownAfterRollback hdb
    attached := h.attached.imp fun _ _ hx => hx.older holder
    journal := nofun }
  have hunlocked : w.Mirrors a.rollBack (s.rollBack d).1 ((s.rollBack d).1.setLock e none) :=
    hdropped.unlock
  rw [← hdrop] at hunlocked
  exact hunlocked

/-- Nobody keeps the session from taking the lock that a commit needs. -/
theorem Follows.lockCommit (h : w.Follows a s d) :
    ∃ e, (if s.isReading d then (.ok (), d) else s.lockExclusive d) = (.ok (), e) ∧
      w.Follows a s e := by
  split
  · exact ⟨d, rfl, h⟩
  · exact ⟨_, h.kept.lockExclusive h.serves, h.setLock _⟩

/-- The file gets the database with the changes. -/
theorem Kept.store (h : w.Kept stored d) (hs : w.Serves s) (db : Database) :
    w.Kept (some db) (d.modifyFile s.file fun f => { f with content := .database db }) := by
  rw [hs.file]
  exact h.modifyFile _ fun f _ hlocks => ⟨rfl, hlocks⟩

theorem Follows.commit (h : w.Follows a s d) : w.Answers a (.ok (), a.commit) (s.commit d) := by
  obtain ⟨e, hlock, hfollows⟩ := h.lockCommit
  have hview := a.view_commit
  unfold Session.commit
  rw [hlock, h.working]
  cases hworking : a.working with
  | none =>
    refine Or.inl ⟨rfl, ?_⟩
    have hidle : w.Follows a.commit { s with working := none, autocommit := true } e :=
      { hfollows with
        serves := ⟨h.serves.id, h.serves.file, h.serves.path⟩
        kept := by simpa only [Solo.commit, hworking, Option.none_or] using hfollows.kept
        autocommit := rfl
        working := rfl
        known := fun db hdb => hview ▸ h.known db hdb
        journal := nofun }
    exact hidle.unlock
  | some db =>
    obtain ⟨result, e', hremove, hkept, holder, hdone⟩ := hfollows.kept.removeJournal h.serves
    simp only [hremove]
    have hserves : w.Serves { s with working := none, autocommit := true } :=
      ⟨h.serves.id, h.serves.file, h.serves.path⟩
    cases result with
    | error fault =>
      rcases hdone (hfollows.journal (by rw [hworking]; rfl)) with hok | ⟨fault, hfault⟩
      · cases hok
      · exact Or.inr (Struck.intro hserves (hkept.setLock h.serves none) hfault rfl)
    | ok _ =>
      refine Or.inl ⟨rfl, ?_⟩
      have holder' : w.Older e (e'.modifyFile s.file fun f => { f with content := .database db }) :=
        holder.trans (by rw [h.serves.file]; exact w.older_modifyFile e' _)
      have hstored : w.Follows a.commit { s with working := none, autocommit := true }
          (e'.modifyFile s.file fun f => { f with content := .database db }) :=
        { hfollows with
          serves := hserves
          kept := by
            simpa only [Solo.commit, hworking, Option.some_or] using hkept.store h.serves db
          autocommit := rfl
          working := rfl
          known := fun db hdb => hview ▸ h.known db hdb
          attached := hfollows.attached.imp fun _ _ hx => hx.older holder'
          journal := nofun }
      exact hstored.unlock

/-! ## Changes -/

theorem Kept.giveUp (h : w.Kept stored d) (hs : w.Serves s) {fault : Fault}
    (hfault : some fault ∈ w.origin.faults) {e : Error} (he : e.isFatal = true) :
    w.Struck stored (s.giveUp d e) := by
  unfold Session.giveUp
  split
  · obtain ⟨hserves, hkept⟩ := h.rollBack hs
    exact Struck.intro hserves hkept hfault he
  · exact Struck.intro hs h hfault he

theorem Mirrors.giveUp (h : w.Mirrors a s d) (fault : Error) :
    (s.giveUp d fault).1 = .error fault ∧
      w.Mirrors a.givenUp (s.giveUp d fault).2.1 (s.giveUp d fault).2.2 := by
  unfold Session.giveUp Solo.givenUp
  rw [h.autocommit]
  split
  · exact ⟨rfl, h.rollBack⟩
  · exact ⟨rfl, h⟩

/-- Opens the journal if a change writes. -/
theorem Follows.openJournal_if (h : w.Follows a s d) (writes : Bool) :
    (∃ e, (if writes then s.openJournal d else (.ok (), d)) = (.ok (), e) ∧ w.Follows a s e ∧
      (writes = true → ∃ id, e.node? w.beside = some (.file id))) ∨
    ∃ fault, some fault ∈ w.origin.faults ∧
      (if writes then s.openJournal d else (.ok (), d)) = (.error .cannotOpen, d.spent) := by
  cases writes with
  | false => exact Or.inl ⟨d, rfl, h, nofun⟩
  | true =>
    rcases h.openJournal with ⟨e, hopen, hfollows, hjournal⟩ | hfault
    · exact Or.inl ⟨e, hopen, hfollows, fun _ => hjournal⟩
    · exact Or.inr hfault

/-- A session has what a change makes of its database. -/
theorem Mirrors.holding (h : w.Mirrors a s d) {writes : Bool}
    (hjournal : writes = true → ∃ id, d.node? w.beside = some (.file id)) {db : Database}
    (hdb : writes = false → SameNames db a.view) :
    w.Mirrors (a.holding writes db)
      { (if writes then { s with working := some db } else s) with known := some db } d := by
  cases writes with
  | false => exact h.know (hdb rfl)
  | true =>
    refine ⟨(h.forget.write (hjournal rfl) nofun).know (SameNames.refl db), fun _ => ?_⟩
    exact Solo.pageCount_pos db

theorem Follows.outcome (h : w.Follows a s d) (db : Database) (c : Change) :
    s.outcome db c = a.outcome db c := by
  cases hrun : c.run db <;> simp only [Session.outcome, Solo.outcome, hrun, h.pageLimit]

theorem Mirrors.settle (h : w.Mirrors a s d) :
    w.Answers a (.ok (), a.settled) (if s.autocommit then
      match s.commit d with
      | (.ok (), s, d) => (.ok (), s, d)
      | (.error fault, s, d) => s.giveUp d fault
    else (.ok (), s, d)) := by
  unfold Solo.settled
  rw [h.autocommit]
  split
  · have hcommit := h.toFollows.commit
    generalize s.commit d = got at hcommit ⊢
    obtain ⟨result, s', e⟩ := got
    rcases hcommit with ⟨hresult, hmirrors⟩ | hstruck
    · cases hresult
      exact Or.inl ⟨rfl, hmirrors⟩
    · obtain ⟨fault, hfault⟩ := hstruck.fault
      obtain ⟨cause, hcause, hfatal⟩ := hstruck.fatal
      cases hcause
      exact Or.inr (hstruck.kept.giveUp hstruck.serves hfault hfatal)
  · exact Or.inl ⟨rfl, h⟩

end Site

end SqlReplay.Sql
