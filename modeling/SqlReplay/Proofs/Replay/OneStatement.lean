import SqlReplay.Proofs.Sql.Texts

/-!
# One statement a line

A line is all or nothing, on any engine that takes texts apart as it should (`TextLaws`).  Of a line
with more than one statement nothing runs, and none without a statement does anything.  A line of
one statement runs as this statement does, whatever is behind its terminator, and as the statement
alone does unless its text is kept (`Target.line_all_or_nothing`).
-/

namespace SqlReplay.Replay

open Storage Sql

variable {σ : Type} [Engine σ] {T : Texts σ} {line : String} {s : σ} {d : Disk}

/-! ## Running a line -/

/-- What comes of one line when another comes to `x`: the same, unless that one cannot be prepared;
then the session and the disk are the same, and neither failure is fatal. -/
inductive RunsAlike (alone line : String) (start : Nat) : Except ExecFault Unit × σ × Disk →
    Except ExecFault Unit × σ × Disk → Prop
  | same (x : Except ExecFault Unit × σ × Disk) : RunsAlike alone line start x x
  | retold (f f' : EngineFault) (s : σ) (d : Disk) (htold : ToldAlike alone line start f f') :
    RunsAlike alone line start (.error (.rejected f.text), s, d) (.error (.rejected f'.text), s, d)

namespace TextLaws

variable (laws : TextLaws T)
include laws

theorem runLine_of_idle (hreads : T.Reads line.toList) (hidle : isIdle line.toList = true) :
    Target.runLine line s d = (.ok (), s, d) := by
  rw [Target.runLine, laws.next_of_idle s d hreads hidle]

/-- A line whose first statement cannot be prepared is refused, and nothing of it runs. -/
theorem runLine_of_unprepared (hreads : T.Reads line.toList) (hidle : isIdle line.toList = false)
    (h : ¬Prepares line s d) : (∃ fault, (Target.runLine line s d).1 = .error fault) ∧
      T.Unmoved s d (Target.runLine line s d).2.1 (Target.runLine line s d).2.2 := by
  have hunmoved := laws.next_unmoved (Engine.batch line) s d
  have hnone := mt (laws.idle_of_next (s := s) (d := d) hreads) (by rw [hidle]; exact nofun)
  unfold Target.runLine
  rcases hnext : Engine.next (Engine.batch line) s d with ⟨fault | _ | x, s', d'⟩
  · rw [hnext] at hunmoved
    exact ⟨⟨_, rfl⟩, hunmoved⟩
  · exact absurd (congrArg Prod.fst hnext) hnone
  · exact absurd ⟨x, congrArg Prod.fst hnext⟩ h

/-- Of a line that has more than one statement nothing runs. -/
theorem runLine_of_more (hreads : T.Reads line.toList)
    (hmore : isIdle (T.after line.toList) = false) (h : Prepares line s d) :
    (Target.runLine line s d).1 = .error (.rejected severalStatements) ∧
      T.Unmoved s d (Target.runLine line s d).2.1 (Target.runLine line s d).2.2 := by
  obtain ⟨⟨p, rest⟩, hprepared⟩ := h
  have hunmoved := laws.next_unmoved (Engine.batch line) s d
  unfold Target.runLine
  rcases hnext : Engine.next (Engine.batch line) s d with ⟨y, s', d'⟩
  rw [hnext] at hprepared hunmoved
  cases hprepared
  have hunmoved' := laws.next_unmoved rest s' d'
  have hrest := mt (laws.idle_of_rest hreads hnext) (by rw [hmore]; exact nofun)
  dsimp only
  rcases hsecond : Engine.next rest s' d' with ⟨fault | _ | x, s'', d''⟩
  · rw [hsecond] at hunmoved'
    exact ⟨rfl, hunmoved.trans hunmoved'⟩
  · exact absurd (congrArg Prod.fst hsecond) hrest
  · rw [hsecond] at hunmoved'
    exact ⟨rfl, hunmoved.trans hunmoved'⟩

/-- A line of one statement runs this statement. -/
theorem runLine_of_one {p : Engine.Prepared σ} {rest : Engine.Batch σ} {s' : σ} {d' : Disk}
    (hreads : T.Reads line.toList) (hone : isIdle (T.after line.toList) = true)
    (h : Engine.next (Engine.batch line) s d = (.ok (some (p, rest)), s', d')) :
    Target.runLine line s d = ((Engine.run p s' d').1.mapError EngineFault.execFault,
      (Engine.run p s' d').2) := by
  rw [Target.runLine, h]
  dsimp only
  rw [laws.rest_of_idle hreads h hone]

theorem isIdle_after_first (line : String) : isIdle (T.after (T.first line).toList) = true := by
  rw [Texts.first, String.toList_ofList, laws.after_firstText]
  rfl

theorem isIdle_after_alone (line : String) : isIdle (T.after (T.alone line).toList) = true := by
  rw [Texts.alone, String.toList_ofList, laws.after_bare]
  rfl

/-- Behind the terminator of its only statement a line may hold what it likes. -/
theorem runLine_first (hreads : T.Reads line.toList) (hone : isIdle (T.after line.toList) = true)
    (h : Prepares (T.first line) s d) :
    Target.runLine line s d = Target.runLine (T.first line) s d := by
  obtain ⟨⟨p, rest⟩, hprepared⟩ := h
  rcases hnext : Engine.next (Engine.batch (T.first line)) s d with ⟨y, s', d'⟩
  rw [hnext] at hprepared
  cases hprepared
  obtain ⟨p', rest', hline, hrun⟩ := laws.next_of_first hreads hnext
  rw [laws.runLine_of_one hreads hone hline, hrun,
    laws.runLine_of_one hreads.first (laws.isIdle_after_first line) hnext]

theorem runLine_alone (hreads : T.Reads line.toList) (hidle : isIdle line.toList = false)
    (hone : isIdle (T.after line.toList) = true) (hkeeps : keepsText line.toList = false) :
    RunsAlike (T.alone line) line (statementStart line.toList)
      (Target.runLine (T.alone line) s d) (Target.runLine line s d) := by
  have halike := laws.next_of_alone s d hreads hidle hkeeps
  rcases halone : Engine.next (Engine.batch (T.alone line)) s d with x
  rcases hline : Engine.next (Engine.batch line) s d with y
  rw [halone, hline] at halike
  cases halike with
  | found p p' rest rest' s' d' hrun =>
    rw [laws.runLine_of_one hreads hone hline, hrun,
      laws.runLine_of_one hreads.alone (laws.isIdle_after_alone line) halone]
    exact .same _
  | refused f f' s' d' htold =>
    rw [Target.runLine, Target.runLine, halone, hline]
    cases htold with
    | same => exact .same _
    | placed fault offset => exact .retold _ _ s' d' (.placed fault offset)
    | ended offset => exact .retold _ _ s' d' (.ended offset)

theorem prepares_of_first (hreads : T.Reads line.toList) (h : Prepares (T.first line) s d) :
    Prepares line s d := by
  obtain ⟨⟨p, rest⟩, hprepared⟩ := h
  rcases hnext : Engine.next (Engine.batch (T.first line)) s d with ⟨y, s', d'⟩
  rw [hnext] at hprepared
  cases hprepared
  obtain ⟨p', rest', hline, -⟩ := laws.next_of_first hreads hnext
  exact ⟨(p', rest'), congrArg Prod.fst hline⟩

theorem prepares_of_alone (hreads : T.Reads line.toList) (hidle : isIdle line.toList = false)
    (hkeeps : keepsText line.toList = false) (h : Prepares (T.alone line) s d) :
    Prepares line s d := by
  obtain ⟨x, hprepared⟩ := h
  have halike := laws.next_of_alone s d hreads hidle hkeeps
  unfold Prepares
  generalize Engine.next (Engine.batch (T.alone line)) s d = a at halike hprepared
  generalize Engine.next (Engine.batch line) s d = b at halike
  cases halike with
  | found p p' rest rest' s' d' hrun => exact ⟨(p', rest'), rfl⟩
  | refused => cases hprepared

theorem idle_of_after (h : isIdle (T.after line.toList) = false) : isIdle line.toList = false := by
  rw [Bool.eq_false_iff] at h ⊢
  intro hidle
  rw [laws.after_of_idle hidle] at h
  exact h rfl

end TextLaws

/-! ## Executing a line -/

namespace Target

variable {t : Target σ}

/-- Whether a target has only changed in what does not tell of its data, nor of what is committed,
nor whether a transaction is open. -/
def Unmoved (T : Texts σ) (s : σ) (t t' : Target σ) : Prop :=
  ∃ s' d', t' = { t with handle? := some s', disk := d' } ∧ T.Unmoved s t.disk s' d'

theorem execute_selected (hopen : t.isOpen = true) (hhandle : t.handle? = some s) (line : String) :
    execute line t = ((runLine line s t.disk).1, { t with
      handle? := some (runLine line s t.disk).2.1, disk := (runLine line s t.disk).2.2 }) := by
  simp only [execute, hopen, Bool.not_true, Bool.false_eq_true, if_false, hhandle]

/-- A line is all or nothing.  If there is more behind its first statement than space, comments and
terminators, it fails and moves nothing, and it is refused for having several statements if the
first one can be prepared.  If it holds no statement, nothing happens.  If it holds one, this runs
and nothing else: as with nothing behind its terminator, and as the statement alone, unless its text
is kept, or it cannot be prepared and the failure is told with the text. -/
theorem line_all_or_nothing (laws : TextLaws T) (hopen : t.isOpen = true)
    (hhandle : t.handle? = some s) (hreads : T.Reads line.toList) :
    (isIdle (T.after line.toList) = false →
      (∃ fault, (execute line t).1 = .error fault) ∧ Unmoved T s t (execute line t).2 ∧
      (Prepares (T.first line) s t.disk ∨
          (keepsText line.toList = false ∧ Prepares (T.alone line) s t.disk) →
        (execute line t).1 = .error (.rejected severalStatements))) ∧
    (isIdle line.toList = true → execute line t = (.ok (), t)) ∧
    (isIdle line.toList = false → isIdle (T.after line.toList) = true →
      (¬Prepares line s t.disk →
        (∃ fault, (execute line t).1 = .error fault) ∧ Unmoved T s t (execute line t).2) ∧
      (Prepares (T.first line) s t.disk → execute line t = execute (T.first line) t) ∧
      (keepsText line.toList = false → (execute line t).2 = (execute (T.alone line) t).2 ∧
        ((execute line t).1 = (execute (T.alone line) t).1 ∨
          ∃ f f', ToldAlike (T.alone line) line (statementStart line.toList) f f' ∧
            (execute (T.alone line) t).1 = .error (.rejected f.text) ∧
            (execute line t).1 = .error (.rejected f'.text)))) := by
  rw [execute_selected hopen hhandle, execute_selected hopen hhandle,
    execute_selected hopen hhandle]
  refine ⟨fun hmore => ?_, fun hidle => ?_, fun hidle hone => ⟨fun hunprepared => ?_,
    fun hprepares => ?_, fun hkeeps => ?_⟩⟩
  · have hidle := laws.idle_of_after hmore
    by_cases hprepares : Prepares line s t.disk
    · obtain ⟨hseveral, hunmoved⟩ := laws.runLine_of_more hreads hmore hprepares
      exact ⟨⟨_, hseveral⟩, ⟨_, _, rfl, hunmoved⟩, fun _ => hseveral⟩
    · obtain ⟨hfault, hunmoved⟩ := laws.runLine_of_unprepared hreads hidle hprepares
      refine ⟨hfault, ⟨_, _, rfl, hunmoved⟩, fun hfirst => absurd ?_ hprepares⟩
      rcases hfirst with hfirst | ⟨hkeeps, halone⟩
      · exact laws.prepares_of_first hreads hfirst
      · exact laws.prepares_of_alone hreads hidle hkeeps halone
  · rw [laws.runLine_of_idle hreads hidle, ← hhandle]
  · obtain ⟨hfault, hunmoved⟩ := laws.runLine_of_unprepared hreads hidle hunprepared
    exact ⟨hfault, _, _, rfl, hunmoved⟩
  · rw [laws.runLine_first hreads hone hprepares]
  · have halike := laws.runLine_alone (s := s) (d := t.disk) hreads hidle hone hkeeps
    generalize runLine (T.alone line) s t.disk = x at halike
    generalize runLine line s t.disk = y at halike
    cases halike with
    | same => exact ⟨rfl, .inl rfl⟩
    | retold f f' s' d' htold => exact ⟨rfl, .inr ⟨f, f', htold, rfl, rfl⟩⟩

/-- A target that has just started a database over. -/
def fresh : FileTarget := (reset "d" (FileTarget.connect (.ofString "data") .initial).2).2

/-- A line whose second statement cannot even be read is refused, and nothing of it runs. -/
theorem line_all_or_nothing_two :
    let line := "DROP TABLE IF EXISTS t; 'x"
    fresh.isOpen = true ∧ fileTexts.Reads line.toList ∧
      isIdle (fileTexts.after line.toList) = false ∧
      (execute line fresh).1 = .error (.rejected severalStatements) ∧
      ∃ s, fresh.handle? = some s ∧ Unmoved fileTexts s fresh (execute line fresh).2 := by
  intro line
  have hopen : fresh.isOpen = true := by decide +kernel
  have hreads : fileTexts.Reads line.toList := ⟨by decide +kernel, by decide +kernel⟩
  have hmore : isIdle (fileTexts.after line.toList) = false := by decide +kernel
  have hselected : fresh.handle?.any (fun s =>
      (Engine.next (Engine.batch (fileTexts.first line)) s fresh.disk).1.toOption.join.isSome) =
      true := by decide +kernel
  generalize fresh = t at hopen hselected ⊢
  obtain ⟨s, hhandle, hprepares⟩ := (Option.any_eq_true ..).1 hselected
  obtain ⟨x, hx⟩ := Option.isSome_iff_exists.1 hprepares
  obtain ⟨-, hunmoved, hseveral⟩ := (line_all_or_nothing textLaws hopen hhandle hreads).1 hmore
  have hfirst : Prepares (fileTexts.first line) s t.disk := ⟨x, by
    generalize (Engine.next (Engine.batch (fileTexts.first line)) s t.disk).1 = y at hx
    rcases y with _ | _ | y <;> cases hx
    rfl⟩
  exact ⟨hopen, hreads, hmore, hseveral (.inl hfirst), s, hhandle, hunmoved⟩

/-- A comment after a statement that cannot be prepared shows in what is said of it. -/
theorem comment_is_told :
    let line := "SELECT nope; -- c"
    fileTexts.Reads line.toList ∧ fresh.isOpen = true ∧ fresh.handle?.isSome = true ∧
      isIdle line.toList = false ∧ isIdle (fileTexts.after line.toList) = true ∧
      fileTexts.alone line = "SELECT nope" ∧
      (execute line fresh).1 ≠ (execute (fileTexts.alone line) fresh).1 ∧
      (execute (fileTexts.alone line) fresh).1 =
        .error (.rejected "no such column: nope in SELECT nope at offset 7") ∧
      (execute line fresh).1 =
        .error (.rejected "no such column: nope in SELECT nope; -- c at offset 7") := by
  refine ⟨⟨?_, ?_⟩, ?_, ?_, ?_, ?_, ?_, ?_, ?_, ?_⟩ <;> decide +kernel

end Target

end SqlReplay.Replay
