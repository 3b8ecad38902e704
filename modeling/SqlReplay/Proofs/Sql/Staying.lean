import SqlReplay.Sql.Session

/-!
# A session stays on its file

Whatever a session does, it keeps its number, its file and its path (`Session.Stays`), so its
journal is beside the path that was opened. One lemma for each operation, and from them any line of
statements (`stays_prepareFirst`, `stays_step`).
-/

namespace SqlReplay.Sql.Session

open Storage

/-- Whether a session is the same one as before, on the same file. -/
structure Stays (s s' : Session) : Prop where
  id : s'.id = s.id
  file : s'.file = s.file
  path : s'.path = s.path

theorem Stays.refl (s : Session) : s.Stays s := ⟨rfl, rfl, rfl⟩

theorem Stays.trans {s s' s'' : Session} (h : s.Stays s') (h' : s'.Stays s'') : s.Stays s'' :=
  ⟨h'.id.trans h.id, h'.file.trans h.file, h'.path.trans h.path⟩

variable (s : Session) (d : Disk)

theorem stays_rollBack : s.Stays (s.rollBack d).1 := ⟨rfl, rfl, rfl⟩

theorem stays_commit : s.Stays (s.commit d).2.1 := by
  unfold commit
  split
  · exact Stays.refl s
  · split
    · exact ⟨rfl, rfl, rfl⟩
    · split <;> exact ⟨rfl, rfl, rfl⟩

theorem stays_firstPage : s.Stays (s.firstPage d).2.1 := by
  unfold firstPage
  split
  · exact Stays.refl s
  · split
    · exact Stays.refl s
    · split <;> exact ⟨rfl, rfl, rfl⟩

theorem stays_beginWrite : s.Stays (s.beginWrite d).2.1 := by
  unfold beginWrite
  split
  · exact Stays.refl s
  · next locked _ =>
    have hpage := s.stays_firstPage locked
    split <;> next heq => rwa [heq] at hpage

theorem stays_beginAlone : s.Stays (s.beginAlone d).2.1 := by
  unfold beginAlone
  split
  · exact Stays.refl s
  · split
    · exact Stays.refl s
    · split
      · exact Stays.refl s
      · next locked _ =>
        have hpage := s.stays_firstPage locked
        split <;> next heq => rwa [heq] at hpage

theorem stays_giveUp (fault : Error) : s.Stays (s.giveUp d fault).2.1 := by
  unfold giveUp
  split
  · exact s.stays_rollBack d
  · exact Stays.refl s

theorem Stays.giveUp {s s' : Session} (h : s.Stays s') (d : Disk) (fault : Error) :
    s.Stays (s'.giveUp d fault).2.1 := h.trans (s'.stays_giveUp d fault)

theorem stays_read : s.Stays (s.read d).2.1 := by
  unfold read
  split
  · exact Stays.refl s
  · split <;> exact ⟨rfl, rfl, rfl⟩

theorem stays_attach (file name : String) : s.Stays (s.attach d file name).2.1 := by
  unfold attach
  split
  · exact Stays.refl s
  · split
    · exact Stays.refl s
    · split
      · exact ⟨rfl, rfl, rfl⟩
      · split <;> exact ⟨rfl, rfl, rfl⟩

theorem Stays.enter {s : Session} {got : Except Error Unit × Session × Disk} :
    s.Stays got.2.1 → s.Stays (match got with
      | (.error fault, s, d) => (.error fault, s, d)
      | (.ok (), s, d) =>
        if s.autocommit then (.ok (), { s with autocommit := false }, d)
        else (.error .nestedTransaction, s, d) : Except Error Unit × Session × Disk).2.1 := by
  obtain ⟨_ | _, s', d'⟩ := got
  all_goals intro h
  · exact h
  · dsimp only
    split
    · exact h.trans ⟨rfl, rfl, rfl⟩
    · exact h

theorem stays_begin (mode : BeginMode) : s.Stays (s.begin d mode).2.1 := by
  cases mode with
  | deferred =>
    have hidle : s.Stays ((.ok (), s, d) : Except Error Unit × Session × Disk).2.1 := Stays.refl s
    exact hidle.enter
  | immediate => exact (s.stays_beginWrite d).enter
  | exclusive => exact (s.stays_beginAlone d).enter

theorem Stays.commitOrGiveUp {s s' : Session} (h : s.Stays s') (d : Disk) :
    s.Stays (match s'.commit d with
      | (.ok (), s, d) => (.ok (), s, d)
      | (.error fault, s, d) => s.giveUp d fault : Except Error Unit × Session × Disk).2.1 := by
  have hcommit := h.trans (s'.stays_commit d)
  generalize s'.commit d = got at hcommit
  obtain ⟨fault | _, s'', d''⟩ := got
  · exact hcommit.giveUp d'' fault
  · exact hcommit

theorem stays_change (c : Change) : s.Stays (s.change d c).2.1 := by
  have hwrite := s.stays_beginWrite d
  unfold change
  generalize s.beginWrite d = got at hwrite
  obtain ⟨_ | _, s', d'⟩ := got
  · exact hwrite
  refine hwrite.trans ?_
  dsimp only
  split
  · exact s'.stays_giveUp d' _
  · next db _ =>
    split
    · refine Stays.giveUp ?_ _ _
      exact ⟨rfl, rfl, rfl⟩
    · cases c.writes db
      all_goals
        simp only [Bool.false_eq_true, if_false, if_true]
        split
        · refine Stays.giveUp ?_ _ _
          exact ⟨rfl, rfl, rfl⟩
        · split
          · refine Stays.commitOrGiveUp ?_ _
            exact ⟨rfl, rfl, rfl⟩
          · exact ⟨rfl, rfl, rfl⟩

theorem Stays.lookAgain {s : Session} {got : Except Error Unit × Session × Disk}
    {fault : Option Error} : s.Stays got.2.1 → s.Stays (match got with
      | (.error barrier, s, d) => (.error barrier, s, d)
      | (.ok (), s, d) => match s.read d, fault with
        | (.ok (), s, d), none => (.ok (), s, s.relax d)
        | (.ok (), s, d), some fault => s.giveUp d fault
        | (.error barrier, s, d), _ => s.giveUp d barrier :
          Except Error Unit × Session × Disk).2.1 := by
  obtain ⟨_ | _, s', d'⟩ := got
  all_goals intro h
  · exact h
  · have hread := s'.stays_read d'
    refine h.trans ?_
    dsimp only
    generalize s'.read d' = seen at hread
    obtain ⟨barrier | _, s'', d''⟩ := seen
    · exact hread.giveUp d'' barrier
    · cases fault with
      | none => exact hread
      | some fault => exact hread.giveUp d'' fault

theorem stays_revisit (writes : Bool) (fault : Option Error) :
    s.Stays (s.revisit d writes fault).2.1 := by
  cases writes with
  | true => exact (s.stays_beginWrite d).lookAgain
  | false =>
    have hidle : s.Stays ((.ok (), s, d) : Except Error Unit × Session × Disk).2.1 := Stays.refl s
    exact hidle.lookAgain

/-! ## Statements -/

/-- A prepared operation is carried out in the same session. -/
theorem stays_step (operation : Operation) : s.Stays (s.step d operation).2.1 := by
  cases operation with
  | begin mode => exact s.stays_begin d mode
  | commit =>
    simp only [step]
    split
    · exact Stays.refl s
    · exact s.stays_commit d
  | rollback =>
    simp only [step]
    split
    · exact Stays.refl s
    · exact s.stays_rollBack d
  | limitPages n =>
    have hread := s.stays_read d
    simp only [step]
    generalize s.read d = got at hread
    obtain ⟨_ | _, s', d'⟩ := got
    · exact hread
    · exact hread.trans ⟨rfl, rfl, rfl⟩
  | attach file name => exact s.stays_attach d file name
  | query reads =>
    simp only [step]
    split
    · exact s.stays_read d
    · exact Stays.refl s
  | change c => exact s.stays_change d c
  | outdated writes fault => exact s.stays_revisit d writes fault

theorem stays_knowing : s.Stays (s.knowing d) := by
  unfold knowing
  split <;> exact ⟨rfl, rfl, rfl⟩

theorem stays_doubting : s.Stays (s.doubting d) := by
  unfold doubting
  split
  · split <;> exact ⟨rfl, rfl, rfl⟩
  · exact Stays.refl s

theorem stays_prepareAnew (ts : List Token) : s.Stays (s.prepareAnew d ts).2 := by
  unfold prepareAnew
  split
  · exact s.stays_knowing d
  · exact Stays.refl s

/-- A statement is prepared in the same session. -/
theorem stays_prepareFirst (ts : List Token) : s.Stays (s.prepareFirst d ts).2 := by
  unfold prepareFirst
  split
  · exact s.stays_prepareAnew d ts
  · split
    · split
      · exact (s.stays_doubting d).trans (stays_prepareAnew _ d ts)
      · exact Stays.refl s
    · exact Stays.refl s
    · split
      · exact Stays.refl s
      · split
        · exact Stays.refl s
        · exact s.stays_knowing d
        · exact Stays.refl s

/-! ## Texts -/

variable {s d} in
theorem stays_runTokens (fuel start : Nat) (ts : List Token) :
    s.Stays (runTokens fuel start ts s d).2.1 := by
  induction fuel generalizing start ts s d with
  | zero => exact Stays.refl s
  | succ fuel ih =>
    have hprepare := s.stays_prepareFirst d ts
    unfold runTokens
    generalize s.prepareFirst d ts = got at hprepare
    obtain ⟨fault | _ | ⟨operation, rest⟩, s'⟩ := got
    · exact hprepare
    · exact hprepare
    · have hstep := hprepare.trans (s'.stays_step d operation)
      dsimp only at hstep ⊢
      generalize s'.step d operation = got at hstep
      obtain ⟨_ | _, s'', e⟩ := got
      · exact hstep
      · exact hstep.trans (ih (startAfter ts rest start) rest)

/-- Whatever text it runs, a session stays on its files. -/
theorem stays_runScript (text : String) : s.Stays (s.runScript d text).2.1 :=
  stays_runTokens _ _ _

end SqlReplay.Sql.Session
