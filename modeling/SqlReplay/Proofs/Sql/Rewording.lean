import SqlReplay.Proofs.Storage.Rewording
import SqlReplay.Sql.Session

/-!
# Sessions do not read texts

A file with a text in it, not empty, is no database, whatever the text is.  So a session sees the
same on disks that are the same but for such texts, and does the same on both: one lemma for each
operation, and from them any line of statements (`prepareFirst_reworded`, `step_reworded`).
-/

namespace SqlReplay.Sql

open Storage Disk

theorem databaseOf_text {text : Bytes} (h : text ≠ []) :
    Session.databaseOf (.plain text) = .error .notADatabase := by
  cases text with
  | nil => exact absurd rfl h
  | cons b bs => rfl

theorem databaseOf_reworded {f g : File} (h : f.Reworded g) :
    Session.databaseOf g.content = Session.databaseOf f.content := by
  obtain ⟨-, -, -, ⟨text, htext, hcontent⟩, text', htext', hcontent'⟩ := h
  rw [hcontent, hcontent', databaseOf_text htext, databaseOf_text htext']

variable {ids : Set Id} {d e : Disk}

/-- A reader of databases finds the same at every path. -/
theorem snapshot_reworded (h : Reworded ids d e) (p : Path) : snapshot e p = snapshot d p := by
  simp only [snapshot, h.find]
  split
  · rfl
  · next place id _ =>
    rcases h.file id with hsame | ⟨-, f, g, hf, hg, hreworded⟩
    · rw [hsame]
    · simp only [hf, hg, hreworded.locks, databaseOf_reworded hreworded]
  · rfl

namespace Session

variable (s : Session) (h : Reworded ids d e)
include h

/-! ## What a session sees -/

theorem committed_reworded (file : Id) : committed e file = committed d file := by
  unfold committed
  rcases h.file file with hsame | ⟨-, f, g, hf, hg, hreworded⟩
  · rw [hsame]
  · simp only [hf, hg, databaseOf_reworded hreworded]

theorem view_reworded : s.view e = s.view d := by
  simp only [view, committed_reworded h]

theorem pagesInUse_reworded : s.pagesInUse e = s.pagesInUse d := by
  unfold pagesInUse
  rcases h.file s.file with hsame | ⟨-, f, g, hf, hg, hreworded⟩
  · rw [hsame]
  · obtain ⟨-, -, -, ⟨text, -, hcontent⟩, text', -, hcontent'⟩ := hreworded
    rw [hf, hg]
    cases s.working with
    | none => simp only [hcontent, hcontent']
    | some db => rfl

theorem locks_reworded : s.locks e = s.locks d :=
  congrArg (Option.getD · []) (h.seen File.locks (fun _ _ hreworded => hreworded.locks) s.file)

theorem lock?_reworded : s.lock? e = s.lock? d := by
  simp only [lock?, s.locks_reworded h]

theorem otherLocks_reworded : s.otherLocks e = s.otherLocks d := by
  simp only [otherLocks, s.locks_reworded h]

theorem barred_reworded : s.barred e = s.barred d := by
  simp only [barred, s.otherLocks_reworded h]

theorem knownAfterRollback_reworded : s.knownAfterRollback e = s.knownAfterRollback d := by
  simp only [knownAfterRollback, committed_reworded h]

theorem isReading_reworded : s.isReading e = s.isReading d := by
  simp only [isReading, s.lock?_reworded h]

theorem inPlace_reworded : s.inPlace e = s.inPlace d := by
  simp only [inPlace, h.locate]

theorem isWriting_reworded : s.isWriting e = s.isWriting d := by
  simp only [isWriting, s.lock?_reworded h]

theorem lookup_reworded : s.lookup e = s.lookup d := by
  simp only [lookup, s.lock?_reworded h, s.barred_reworded h, s.view_reworded h]

theorem schema_reworded (db : Database) : s.schema e db = s.schema d db := by
  simp only [schema, committed_reworded h]

/-! ## Locks -/

theorem setLock_reworded (level : Option LockLevel) :
    Reworded ids (s.setLock d level) (s.setLock e level) := by
  refine h.modifyFile s.file fun f g hreworded => Or.inr ?_
  obtain ⟨hlocks, hleft, hdiscards, hheld, hholds⟩ := hreworded
  cases level with
  | none => exact ⟨by rw [hlocks], hleft, hdiscards, hheld, hholds⟩
  | some level => exact ⟨by simp only [hlocks], hleft, hdiscards, hheld, hholds⟩

theorem relax_reworded : Reworded ids (s.relax d) (s.relax e) := by
  unfold relax
  split
  · exact s.setLock_reworded h none
  · exact h

omit h in
/-- Whether a lock was refused for the same reason on two disks, or taken on both. -/
inductive Locks (ids : Set Id) : Except Error Disk → Except Error Disk → Prop
  | refused (fault : Error) : Locks ids (.error fault) (.error fault)
  | taken {d e : Disk} (h : Reworded ids d e) : Locks ids (.ok d) (.ok e)

omit h in
@[elab_as_elim]
theorem Locks.elim {motive : Except Error Disk → Except Error Disk → Prop}
    {x y : Except Error Disk} (h : Locks ids x y)
    (refused : ∀ fault, motive (.error fault) (.error fault))
    (taken : ∀ d e, Reworded ids d e → motive (.ok d) (.ok e)) : motive x y := by
  obtain fault | h := h
  · exact refused fault
  · exact taken _ _ h

theorem lockShared_reworded : Locks ids (s.lockShared d) (s.lockShared e) := by
  simp only [lockShared, s.lock?_reworded h, s.barred_reworded h]
  split
  · exact .taken h
  · split
    · exact .refused _
    · exact .taken (s.setLock_reworded h _)

theorem lockReserved_reworded : Locks ids (s.lockReserved d) (s.lockReserved e) := by
  unfold lockReserved
  refine (s.lockShared_reworded h).elim (fun fault => ?_) fun d e h => ?_
  · exact .refused fault
  · simp only [s.lock?_reworded h, s.otherLocks_reworded h]
    split
    · split
      · exact .refused _
      · exact .taken (s.setLock_reworded h _)
    · exact .taken h

theorem lockExclusive_reworded : Matches ids (s.lockExclusive d) (s.lockExclusive e) := by
  simp only [lockExclusive, s.otherLocks_reworded h]
  split <;> exact .mk _ (s.setLock_reworded h _)

/-! ## Transactions -/

theorem removeJournal_reworded :
    Reworded ids (d.removeFile s.journal).2 (e.removeFile s.journal).2 := by
  refine (h.removeFile s.journal).elim ?_
  rintro _ _ _ h
  exact h

theorem rollBack_reworded : Matches ids (s.rollBack d) (s.rollBack e) := by
  simp only [rollBack, s.knownAfterRollback_reworded h]
  refine .mk _ (s.setLock_reworded ?_ none)
  split
  · exact s.removeJournal_reworded h
  · exact h

theorem store_reworded (db : Database) :
    Reworded ids (d.modifyFile s.file fun f => { f with content := .database db })
      (e.modifyFile s.file fun f => { f with content := .database db }) := by
  refine h.modifyFile s.file fun f g hreworded => Or.inl ?_
  rw [hreworded.locks, hreworded.writesLeft, hreworded.discards]

theorem commit_reworded : MatchesWith ids (s.commit d) (s.commit e) := by
  have hlocked : Matches ids (if s.isReading d then (.ok (), d) else s.lockExclusive d)
      (if s.isReading d then (.ok (), e) else s.lockExclusive e) := by
    split
    · exact .mk _ h
    · exact s.lockExclusive_reworded h
  simp only [commit, s.isReading_reworded h]
  refine hlocked.elim ?_
  rintro (fault | _) _ _ h
  · exact .mk _ _ h
  · dsimp only
    split
    · exact .mk _ _ (s.setLock_reworded h none)
    · next db _ =>
      refine (h.removeFile s.journal).elim ?_
      rintro (fault | _) _ _ h
      · exact .mk _ _ (s.setLock_reworded h none)
      · exact .mk _ _ (s.setLock_reworded (s.store_reworded h db) none)

theorem openJournal_reworded : Matches ids (s.openJournal d) (s.openJournal e) := by
  simp only [openJournal, s.pagesInUse_reworded h, s.inPlace_reworded h]
  split
  · exact .mk _ h
  · split
    · exact .mk _ h
    · refine (h.openFile s.journal).elim ?_
      rintro (fault | _) _ _ h <;> exact .mk _ h

theorem firstPage_reworded : MatchesWith ids (s.firstPage d) (s.firstPage e) := by
  simp only [firstPage, s.view_reworded h, s.pagesInUse_reworded h]
  split
  · exact .mk _ _ h
  · split
    · exact .mk _ _ h
    · refine (s.openJournal_reworded h).elim ?_
      rintro (fault | _) _ _ h <;> exact .mk _ _ h

/-- Beginning to write ends with the first page, or lets go of the lock. -/
theorem firstPageOrRelax_reworded :
    MatchesWith ids
      (match s.firstPage d with
        | (.ok (), s, d) => (.ok (), s, d)
        | (.error fault, s, d) => (.error fault, s, s.relax d) : Except Error Unit × Session × Disk)
      (match s.firstPage e with
        | (.ok (), s, d) => (.ok (), s, d)
        | (.error fault, s, d) => (.error fault, s, s.relax d)) := by
  refine (s.firstPage_reworded h).elim ?_
  rintro (fault | _) s' _ _ h
  · exact .mk _ _ (s'.relax_reworded h)
  · exact .mk _ _ h

theorem beginWrite_reworded : MatchesWith ids (s.beginWrite d) (s.beginWrite e) := by
  unfold beginWrite
  refine (s.lockReserved_reworded h).elim (fun fault => ?_) fun _ _ hlocked => ?_
  · exact .mk _ _ h
  · exact s.firstPageOrRelax_reworded hlocked

theorem beginAlone_reworded : MatchesWith ids (s.beginAlone d) (s.beginAlone e) := by
  simp only [beginAlone, s.isWriting_reworded h, s.lock?_reworded h]
  split
  · exact .mk _ _ h
  · refine (s.lockReserved_reworded h).elim (fun fault => ?_) fun _ _ hreserved => ?_
    · exact .mk _ _ h
    · dsimp only
      refine (s.lockExclusive_reworded hreserved).elim ?_
      rintro (fault | _) _ _ hwaiting
      · dsimp only
        split
        · exact .mk _ _ hwaiting
        · exact .mk _ _ h
      · exact s.firstPageOrRelax_reworded hwaiting

theorem giveUp_reworded (fault : Error) :
    MatchesWith ids (s.giveUp d fault) (s.giveUp e fault) := by
  unfold giveUp
  split
  · refine (s.rollBack_reworded h).elim ?_
    rintro s' _ _ h
    exact .mk _ _ h
  · exact .mk _ _ h

theorem commitOrGiveUp_reworded :
    MatchesWith ids
      (match s.commit d with
        | (.ok (), s, d) => (.ok (), s, d)
        | (.error fault, s, d) => s.giveUp d fault : Except Error Unit × Session × Disk)
      (match s.commit e with
        | (.ok (), s, d) => (.ok (), s, d)
        | (.error fault, s, d) => s.giveUp d fault) := by
  refine (s.commit_reworded h).elim ?_
  rintro (fault | _) s _ _ h
  · exact s.giveUp_reworded h fault
  · exact .mk _ _ h

theorem openJournalIf_reworded (writes : Bool) :
    Matches ids (if writes then s.openJournal d else (.ok (), d))
      (if writes then s.openJournal e else (.ok (), e)) := by
  split
  · exact s.openJournal_reworded h
  · exact .mk _ h

theorem change_reworded (c : Change) : MatchesWith ids (s.change d c) (s.change e c) := by
  unfold change
  refine (s.beginWrite_reworded h).elim ?_
  rintro (fault | _) s d e h
  · exact .mk _ _ h
  simp only [s.view_reworded h]
  split
  · exact s.giveUp_reworded h _
  · next db _ =>
    refine (openJournalIf_reworded { s with known := some db } h (c.writes db)).elim ?_
    rintro (fault | _) _ _ h
    · exact giveUp_reworded _ h fault
    · dsimp only
      cases c.writes db
      all_goals
        simp only [Bool.false_eq_true, if_false, if_true]
        split
        · exact giveUp_reworded _ h _
        · split
          · exact commitOrGiveUp_reworded _ h
          · exact .mk _ _ h

theorem read_reworded : MatchesWith ids (s.read d) (s.read e) := by
  unfold read
  refine (s.lockShared_reworded h).elim (fun fault => ?_) fun _ _ hlocked => ?_
  · exact .mk _ _ h
  · simp only [s.view_reworded hlocked]
    split
    · exact .mk _ _ h
    · refine .mk _ _ ?_
      split
      · exact h
      · exact hlocked

theorem revisit_reworded (writes : Bool) (fault : Option Error) :
    MatchesWith ids (s.revisit d writes fault) (s.revisit e writes fault) := by
  have hbegun : MatchesWith ids (if writes then s.beginWrite d else (.ok (), s, d))
      (if writes then s.beginWrite e else (.ok (), s, e)) := by
    split
    · exact s.beginWrite_reworded h
    · exact .mk _ _ h
  unfold revisit
  dsimp only
  refine hbegun.elim ?_
  rintro (barrier | _) s _ _ h
  · exact .mk _ _ h
  · dsimp only
    refine (s.read_reworded h).elim ?_
    rintro (barrier | _) s _ _ h
    · exact s.giveUp_reworded h barrier
    · cases fault with
      | none => exact .mk _ _ (s.relax_reworded h)
      | some fault => exact s.giveUp_reworded h fault

omit h in
theorem enter_reworded {x y : Except Error Unit × Session × Disk} :
    MatchesWith ids x y → MatchesWith ids
      (match x with
        | (.error fault, s, d) => (.error fault, s, d)
        | (.ok (), s, d) =>
          if s.autocommit then (.ok (), { s with autocommit := false }, d)
          else (.error .nestedTransaction, s, d) : Except Error Unit × Session × Disk)
      (match y with
        | (.error fault, s, d) => (.error fault, s, d)
        | (.ok (), s, d) =>
          if s.autocommit then (.ok (), { s with autocommit := false }, d)
          else (.error .nestedTransaction, s, d)) := by
  rintro ⟨fault | _, s, h⟩
  · exact .mk _ _ h
  · dsimp only
    split <;> exact .mk _ _ h

theorem begin_reworded (mode : BeginMode) :
    MatchesWith ids (s.begin d mode) (s.begin e mode) := by
  cases mode with
  | deferred => exact enter_reworded (.mk (.ok ()) s h)
  | immediate => exact enter_reworded (s.beginWrite_reworded h)
  | exclusive => exact enter_reworded (s.beginAlone_reworded h)

theorem attach_reworded (file name : String) :
    MatchesWith ids (s.attach d file name) (s.attach e file name) := by
  unfold attach
  split
  · exact .mk _ _ h
  · split
    · exact .mk _ _ h
    · refine (h.openFile (Path.ofString file)).elim ?_
      rintro (fault | id) _ _ h
      · exact .mk _ _ h
      · simp only [committed_reworded h]
        split <;> exact .mk _ _ h

/-! ## Statements -/

theorem step_reworded (operation : Operation) :
    MatchesWith ids (s.step d operation) (s.step e operation) := by
  cases operation with
  | begin mode => exact s.begin_reworded h mode
  | commit =>
    simp only [step]
    split
    · exact .mk _ _ h
    · exact s.commit_reworded h
  | rollback =>
    simp only [step]
    split
    · exact .mk _ _ h
    · refine (s.rollBack_reworded h).elim ?_
      rintro s _ _ h
      exact .mk _ _ h
  | limitPages n =>
    simp only [step]
    refine (s.read_reworded h).elim ?_
    rintro (fault | _) s _ _ h
    · exact .mk _ _ h
    · simp only [s.pagesInUse_reworded h]
      exact .mk _ _ h
  | attach file name => exact s.attach_reworded h file name
  | query reads =>
    simp only [step]
    split
    · exact s.read_reworded h
    · exact .mk _ _ h
  | change c => exact s.change_reworded h c
  | outdated writes fault => exact s.revisit_reworded h writes fault

theorem knowing_reworded : s.knowing e = s.knowing d := by
  simp only [knowing, s.lookup_reworded h]

theorem doubting_reworded : s.doubting e = s.doubting d := by
  simp only [doubting, s.lookup_reworded h]

theorem prepareAnew_reworded (ts : List Token) : s.prepareAnew e ts = s.prepareAnew d ts := by
  have hschema : s.schema e = s.schema d := funext (s.schema_reworded h)
  simp only [prepareAnew, s.lookup_reworded h, hschema, s.knowing_reworded h]

/-- A statement is prepared alike, whatever the texts are. -/
theorem prepareFirst_reworded (ts : List Token) : s.prepareFirst e ts = s.prepareFirst d ts := by
  simp only [prepareFirst, s.prepareAnew_reworded h, s.schema_reworded h, s.doubting_reworded h,
    prepareAnew_reworded _ h, s.knowing_reworded h]

/-! ## Opening and closing -/

theorem opening_reworded (p : Path) : Matches ids (opening d p) (opening e p) := by
  unfold opening
  refine (h.openFile p).elim ?_
  rintro (fault | file) _ _ h
  · exact .mk _ h
  · simp only [h.nextId]
    have hnumber := h.number
    rw [h.nextId] at hnumber
    exact .mk _ hnumber

theorem close_reworded : Reworded ids (s.close d) (s.close e) := by
  unfold close
  refine (s.rollBack_reworded h).elim ?_
  rintro _ _ _ h
  exact h

end Session

end SqlReplay.Sql
