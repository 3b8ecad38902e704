import Mathlib.Logic.Relation
import SqlReplay.Proofs.Sql.Staying
import SqlReplay.Proofs.Storage.Leaving

/-!
# What a session does to its disk

Whatever a session is asked, all it does to the disk is to change its own file, to remove its
journal and to open files, one after the other (`Session.Does`): a statement does no more
(`does_step`), nor does a commit (`does_commit`) or the end of the session (`does_close`). So a file
is left alone that is not its own and that the journal's path does not lead to (`Does.leaves`).
-/

namespace SqlReplay.Sql.Session

open Storage

/-- One thing that is done to the disk by a session on a file with a journal. -/
inductive Deed (file : Id) (journal : Path) : Disk → Disk → Prop
  | change (d : Disk) (change : File → File) : Deed file journal d (d.modifyFile file change)
  | unjournal (d : Disk) : Deed file journal d (d.removeFile journal).2
  | reach (d : Disk) (p : Path) : Deed file journal d (d.openFile p).2

/-- Whether what a session does leads from one disk to another. -/
def Does (s : Session) : Disk → Disk → Prop := Relation.ReflTransGen (Deed s.file s.journal)

theorem Does.refl (s : Session) (d : Disk) : s.Does d d := Relation.ReflTransGen.refl

theorem Does.trans {s : Session} {d e f : Disk} (h : s.Does d e) (h' : s.Does e f) : s.Does d f :=
  Relation.ReflTransGen.trans h h'

theorem Deed.does {s : Session} {d e : Disk} (h : Deed s.file s.journal d e) : s.Does d e :=
  Relation.ReflTransGen.single h

/-- What the session does later on is its own doing. -/
theorem Stays.does {s s' : Session} (h : s.Stays s') {d e : Disk} (hdoes : s'.Does d e) :
    s.Does d e := by
  have hjournal : s'.journal = s.journal := congrArg (Path.withSuffix · "-journal") h.path
  rwa [Does, h.file, hjournal] at hdoes

/-- A file that is not the session's own, nor where its journal is, is left alone. -/
theorem Does.leaves {s : Session} {d e : Disk} {id : Id} (h : s.Does d e) (hid : id < d.nextId)
    (hfile : s.file ≠ id) (hjournal : Disk.Away id d s.journal) : Disk.Leaves id d e := by
  induction h with
  | refl => exact Disk.Leaves.refl id d
  | tail _ hdeed ih =>
    refine ih.trans ?_
    cases hdeed with
    | change change => exact Disk.leaves_modifyFile (Ne.symm hfile) _ change
    | unjournal => exact Disk.leaves_removeFile _ (ih.away hjournal)
    | reach p => exact Disk.leaves_openFile _ p (ih.lt hid)

/-! ## Operations -/

variable (s : Session) (d : Disk)

theorem does_setLock (level : Option LockLevel) : s.Does d (s.setLock d level) :=
  (Deed.change d _).does

theorem does_close : s.Does d (s.close d) := by
  refine Does.trans ?_ (s.does_setLock _ none)
  split
  · exact (Deed.unjournal d).does
  · exact Does.refl s d

theorem does_relax : s.Does d (s.relax d) := by
  unfold relax
  split
  · exact s.does_setLock d none
  · exact Does.refl s d

theorem does_lockShared {e : Disk} (h : s.lockShared d = .ok e) : s.Does d e := by
  unfold lockShared at h
  split at h
  · cases h
    exact Does.refl s d
  · split at h
    · cases h
    · cases h
      exact s.does_setLock d _

theorem does_lockReserved {e : Disk} (h : s.lockReserved d = .ok e) : s.Does d e := by
  unfold lockReserved at h
  split at h
  · cases h
  · next hshared =>
    refine (s.does_lockShared d hshared).trans ?_
    split at h
    · split at h
      · cases h
      · cases h
        exact s.does_setLock _ _
    · cases h
      exact Does.refl s _

theorem does_lockExclusive : s.Does d (s.lockExclusive d).2 := by
  unfold lockExclusive
  split
  · exact s.does_setLock d (some .exclusive)
  · exact s.does_setLock d (some .pending)

theorem does_commit : s.Does d (s.commit d).2.2 := by
  have hlock : s.Does d (if s.isReading d then (.ok (), d) else s.lockExclusive d :
      Except Error Unit × Disk).2 := by
    split
    · exact Does.refl s d
    · exact s.does_lockExclusive d
  unfold commit
  generalize (if s.isReading d then (.ok (), d) else s.lockExclusive d :
    Except Error Unit × Disk) = locked at hlock
  obtain ⟨_ | _, e⟩ := locked
  · exact hlock
  refine hlock.trans ?_
  dsimp only
  split
  · exact s.does_setLock e none
  · next db _ =>
    have hremove : s.Does e (e.removeFile s.journal).2 := (Deed.unjournal e).does
    generalize e.removeFile s.journal = removed at hremove
    obtain ⟨_ | _, f⟩ := removed
    · exact hremove.trans (s.does_setLock f none)
    · exact (hremove.trans (Deed.change f _).does).trans (s.does_setLock _ none)

theorem does_openJournal : s.Does d (s.openJournal d).2 := by
  unfold openJournal
  split
  · exact Does.refl s d
  · split
    · exact Does.refl s d
    · have hopen : s.Does d (d.openFile s.journal).2 := (Deed.reach d s.journal).does
      generalize d.openFile s.journal = got at hopen
      obtain ⟨_ | _, e⟩ := got
      · exact hopen
      · exact hopen

theorem does_firstPage : s.Does d (s.firstPage d).2.2 := by
  unfold firstPage
  split
  · exact Does.refl s d
  · split
    · exact Does.refl s d
    · have hopen := s.does_openJournal d
      generalize s.openJournal d = got at hopen
      obtain ⟨_ | _, e⟩ := got
      · exact hopen
      · exact hopen

/-- A first page that could not be written lets go of the lock. -/
theorem does_firstPage_relax : s.Does d (match s.firstPage d with
    | (.ok (), s, d) => (.ok (), s, d)
    | (.error fault, s, d) => (.error fault, s, s.relax d) :
      Except Error Unit × Session × Disk).2.2 := by
  have hpage := s.does_firstPage d
  have hstays := s.stays_firstPage d
  generalize s.firstPage d = got at hpage hstays
  obtain ⟨_ | _, s', e⟩ := got
  · exact hpage.trans (hstays.does (s'.does_relax e))
  · exact hpage

theorem does_beginWrite : s.Does d (s.beginWrite d).2.2 := by
  unfold beginWrite
  split
  · exact Does.refl s d
  · next locked hlocked =>
    exact (s.does_lockReserved d hlocked).trans (s.does_firstPage_relax locked)

theorem does_beginAlone : s.Does d (s.beginAlone d).2.2 := by
  unfold beginAlone
  split
  · exact Does.refl s d
  · split
    · exact Does.refl s d
    · next locked hlocked =>
      have hreserved := s.does_lockReserved d hlocked
      have halone := hreserved.trans (s.does_lockExclusive locked)
      generalize s.lockExclusive locked = got at halone
      obtain ⟨_ | _, e⟩ := got
      · dsimp only
        split
        · exact halone
        · exact Does.refl s d
      · exact halone.trans (s.does_firstPage_relax e)

theorem does_giveUp (fault : Error) : s.Does d (s.giveUp d fault).2.2 := by
  unfold giveUp
  split
  · exact s.does_close d
  · exact Does.refl s d

theorem does_read : s.Does d (s.read d).2.2 := by
  unfold read
  split
  · exact Does.refl s d
  · next locked hlocked =>
    split
    · exact Does.refl s d
    · dsimp only
      split
      · exact Does.refl s d
      · exact s.does_lockShared d hlocked

theorem does_attach (file name : String) : s.Does d (s.attach d file name).2.2 := by
  have hopen : s.Does d (d.openFile (Path.ofString file)).2 := (Deed.reach d _).does
  unfold attach
  split
  · exact Does.refl s d
  · split
    · exact Does.refl s d
    · generalize d.openFile (Path.ofString file) = got at hopen
      obtain ⟨_ | id, e⟩ := got
      · exact hopen
      · dsimp only
        split
        · exact hopen
        · exact hopen

variable {s d} {s' : Session} {e : Disk} {got : Except Error Unit × Session × Disk}

theorem does_enter : s.Does d got.2.2 → s.Does d (match got with
    | (.error fault, s, d) => (.error fault, s, d)
    | (.ok (), s, d) =>
      if s.autocommit then (.ok (), { s with autocommit := false }, d)
      else (.error .nestedTransaction, s, d) : Except Error Unit × Session × Disk).2.2 := by
  obtain ⟨_ | _, s', e⟩ := got
  all_goals intro h
  · exact h
  · dsimp only
    split <;> exact h

theorem does_begin (s : Session) (d : Disk) (mode : BeginMode) :
    s.Does d (s.begin d mode).2.2 := by
  cases mode with
  | deferred =>
    have hidle : s.Does d ((.ok (), s, d) : Except Error Unit × Session × Disk).2.2 :=
      Does.refl s d
    exact does_enter hidle
  | immediate => exact does_enter (s.does_beginWrite d)
  | exclusive => exact does_enter (s.does_beginAlone d)

theorem does_commitOrGiveUp (s : Session) (d : Disk) : s.Does d (match s.commit d with
    | (.ok (), s, d) => (.ok (), s, d)
    | (.error fault, s, d) => s.giveUp d fault : Except Error Unit × Session × Disk).2.2 := by
  have hcommit := s.does_commit d
  have hstays := s.stays_commit d
  generalize s.commit d = got at hcommit hstays
  obtain ⟨fault | _, s', e⟩ := got
  · exact hcommit.trans (hstays.does (s'.does_giveUp e fault))
  · exact hcommit

theorem does_change (s : Session) (d : Disk) (c : Change) : s.Does d (s.change d c).2.2 := by
  have hwrite := s.does_beginWrite d
  have hstays := s.stays_beginWrite d
  unfold change
  generalize s.beginWrite d = got at hwrite hstays
  obtain ⟨_ | _, s', e⟩ := got
  · exact hwrite
  refine hwrite.trans (hstays.does ?_)
  dsimp only
  split
  · exact s'.does_giveUp e _
  · next db _ =>
    have hopen : s'.Does e (if c.writes db then
        ({ s' with known := some db } : Session).openJournal e else (.ok (), e) :
          Except Error Unit × Disk).2 := by
      split
      · exact does_openJournal { s' with known := some db } e
      · exact Does.refl s' e
    generalize (if c.writes db then ({ s' with known := some db } : Session).openJournal e
      else (.ok (), e) : Except Error Unit × Disk) = opened at hopen
    obtain ⟨fault | _, f⟩ := opened
    · exact hopen.trans (does_giveUp { s' with known := some db } f fault)
    · refine hopen.trans ?_
      dsimp only
      cases c.writes db
      all_goals
        simp only [Bool.false_eq_true, if_false, if_true]
        split
        · refine Stays.does ?_ (does_giveUp _ f _)
          exact ⟨rfl, rfl, rfl⟩
        · split
          · refine Stays.does ?_ (does_commitOrGiveUp _ f)
            exact ⟨rfl, rfl, rfl⟩
          · exact Does.refl s' f

theorem does_revisit (s : Session) (d : Disk) (writes : Bool) (fault : Option Error) :
    s.Does d (s.revisit d writes fault).2.2 := by
  have hbegun : s.Stays (if writes then s.beginWrite d else (.ok (), s, d)).2.1 ∧
      s.Does d (if writes then s.beginWrite d else (.ok (), s, d)).2.2 := by
    split
    · exact ⟨s.stays_beginWrite d, s.does_beginWrite d⟩
    · exact ⟨Stays.refl s, Does.refl s d⟩
  unfold revisit
  generalize (if writes then s.beginWrite d else (.ok (), s, d)) = begun at hbegun
  obtain ⟨_ | _, s', e⟩ := begun
  · exact hbegun.2
  · have hread := s'.does_read e
    have hsame := s'.stays_read e
    refine hbegun.2.trans (hbegun.1.does ?_)
    dsimp only
    generalize s'.read e = seen at hread hsame
    obtain ⟨barrier | _, s'', f⟩ := seen
    · exact hread.trans (hsame.does (s''.does_giveUp f barrier))
    · cases fault with
      | none => exact hread.trans (hsame.does (s''.does_relax f))
      | some fault => exact hread.trans (hsame.does (s''.does_giveUp f fault))

/-- A prepared operation is carried out by the session alone. -/
theorem does_step (s : Session) (d : Disk) (operation : Operation) :
    s.Does d (s.step d operation).2.2 := by
  cases operation with
  | begin mode => exact s.does_begin d mode
  | commit =>
    simp only [step]
    split
    · exact Does.refl s d
    · exact s.does_commit d
  | rollback =>
    simp only [step]
    split
    · exact Does.refl s d
    · exact s.does_close d
  | limitPages n =>
    have hread := s.does_read d
    simp only [step]
    generalize s.read d = got at hread
    obtain ⟨_ | _, s', e⟩ := got
    · exact hread
    · exact hread
  | attach file name => exact s.does_attach d file name
  | query reads =>
    simp only [step]
    split
    · exact s.does_read d
    · exact Does.refl s d
  | change c => exact s.does_change d c
  | outdated writes fault => exact s.does_revisit d writes fault

end SqlReplay.Sql.Session
