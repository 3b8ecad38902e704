import SqlReplay.Proofs.Text.Utf8
import SqlReplay.Replay.FileTarget

/-!
# Sessions as an engine

What the actions of an engine come to on sessions: a line is prepared as its tokens are
(`runLine_eq`), the words `BEGIN` and `COMMIT` begin and commit (`perform_begin`,
`perform_commit`), and a file is opened in a new transaction (`openDatabase_eq`).
-/

namespace SqlReplay.Sql

open Storage Replay

namespace Error

/-- A failure in the given words, as one of a statement. -/
def execFault (e : Error) (words : String) : ExecFault := EngineFault.execFault ⟨e.code?, words⟩

theorem any_isFatal_code? (e : Error) : e.code?.any EngineCode.isFatal = e.isFatal := by
  cases e with
  | noSuchColumn name offset => cases offset <;> rfl
  | _ => rfl

theorem execFault_eq (e : Error) (words : String) :
    e.execFault words = if e.isFatal then .fatal words else .rejected words := by
  rw [execFault, EngineFault.execFault, any_isFatal_code?]

theorem reportFrom_zero (e : Error) (text : String) : e.reportFrom 0 text = e.report text := by
  rw [reportFrom, report, List.drop_zero, Utf8.display_ofString]
  rfl

end Error

namespace Session

variable {s : Session} {d : Disk} {ts : List Token}

/-! ## Texts without a statement -/

theorem prepareIn_of_isEmpty (schema : Except Error Schema)
    (h : (skipTerminators ts).isEmpty = true) : prepareIn schema ts = (.ok none, false) := by
  rw [prepareIn, readFirst, List.isEmpty_iff.1 h]

theorem prepareFirst_of_isEmpty (h : (skipTerminators ts).isEmpty = true) :
    s.prepareFirst d ts = (.ok none, s) := by
  have hanew : s.prepareAnew d ts = (.ok none, s) := by
    rw [prepareAnew, prepareIn_of_isEmpty _ h]
  unfold prepareFirst
  cases (if s.working.isNone then s.known else none) with
  | none => exact hanew
  | some known =>
    dsimp only
    rw [prepareIn_of_isEmpty _ h]

theorem isEmpty_of_readFirst {present : String → Bool} (h : readFirst present ts = .ok none) :
    (skipTerminators ts).isEmpty = true := by
  unfold readFirst at h
  split at h
  · next hnil => rw [hnil, List.isEmpty_nil]
  · cases hread : readStatement present (skipTerminators ts) with
    | error fault =>
      rw [hread] at h
      cases h
    | ok got =>
      rw [hread] at h
      obtain ⟨statement, rest⟩ := got
      change (if atEnd rest = true then pure (some (statement, rest.tail))
        else throw (stuckAt rest)) = _ at h
      split at h <;> cases h

theorem isEmpty_of_prepareIn {schema : Except Error Schema}
    (h : (prepareIn schema ts).1 = .ok none) : (skipTerminators ts).isEmpty = true := by
  unfold prepareIn at h
  dsimp only at h
  split at h
  · cases h
  · next hread => exact isEmpty_of_readFirst hread
  · next statement rest _ =>
    rcases hneeded : (if statement.needsSchema = true then schema else .ok ⟨.empty, []⟩) with
      fault | schema'
    · simp only [hneeded, Except.bind, reduceCtorEq] at h
    · simp only [hneeded, Except.bind] at h
      rcases hprepare : prepare schema' statement with fault | operation
      all_goals simp [hprepare, Except.map] at h

theorem isEmpty_of_prepareAnew (h : (s.prepareAnew d ts).1 = .ok none) :
    (skipTerminators ts).isEmpty = true := by
  have hprepared : (prepareIn ((s.lookup d).map (s.schema d)) ts).1 = .ok none := by
    unfold prepareAnew at h
    split at h
    · next hprepare => rw [hprepare]; exact h
    · next hprepare => rw [hprepare]; exact h
  exact isEmpty_of_prepareIn hprepared

/-- No statement is prepared only where there is none. -/
theorem isEmpty_of_prepareFirst (h : (s.prepareFirst d ts).1 = .ok none) :
    (skipTerminators ts).isEmpty = true := by
  unfold prepareFirst at h
  split at h
  · exact isEmpty_of_prepareAnew h
  · split at h
    · split at h
      · exact isEmpty_of_prepareAnew h
      · cases h
    · next hprepare => exact isEmpty_of_prepareIn hprepare
    · split at h
      · cases h
      · next current hcurrent =>
        split at h
        · cases h
        · exact isEmpty_of_prepareAnew (hcurrent.trans h)
        · exact isEmpty_of_prepareAnew (hcurrent.trans h)

/-! ## Lines -/

/-- What a run of an operation comes to, as a line tells it. -/
def told : Except Error Unit × Session × Disk → Except ExecFault Unit × Session × Disk
  | (.ok (), s, d) => (.ok (), s, d)
  | (.error fault, s, d) => (.error (fault.execFault fault.message), s, d)

theorem next_batch (line : String) (s : Session) (d : Disk) :
    Engine.next (Engine.batch line) s d = match s.prepareFirst d (scan line.toList) with
      | (.error fault, s) => (.error ⟨fault.code?, fault.report line⟩, s, d)
      | (.ok none, s) => (.ok none, s, d)
      | (.ok (some (operation, rest)), s) =>
        (.ok (some (operation, ⟨line, startAfter (scan line.toList) rest 0, rest⟩)), s, d) := by
  simp only [← Error.reportFrom_zero]
  rfl

theorem run_eq (operation : Operation) (s : Session) (d : Disk) :
    Engine.run operation s d = ((s.step d operation).1.mapError fun fault =>
      ⟨fault.code?, fault.message⟩, (s.step d operation).2) := rfl

theorem told_eq (x : Except Error Unit × Session × Disk) :
    told x = ((x.1.mapError fun fault => (⟨fault.code?, fault.message⟩ : EngineFault)).mapError
      EngineFault.execFault, x.2) := by
  obtain ⟨_ | _, x⟩ := x <;> rfl

/-- A line is prepared as its tokens are, and refused if there is more than one statement. -/
theorem runLine_eq (line : String) (s : Session) (d : Disk) :
    Target.runLine line s d = match s.prepareFirst d (scan line.toList) with
      | (.error fault, s) => (.error (fault.execFault (fault.report line)), s, d)
      | (.ok none, s) => (.ok (), s, d)
      | (.ok (some (operation, rest)), s) =>
        if (skipTerminators rest).isEmpty then told (s.step d operation)
        else (.error (.rejected severalStatements), (s.prepareFirst d rest).2, d) := by
  unfold Target.runLine
  rw [next_batch]
  rcases s.prepareFirst d (scan line.toList) with ⟨fault | _ | ⟨operation, rest⟩, s'⟩
  · rfl
  · rfl
  · dsimp only
    have hnext : ∀ start, Engine.next (⟨line, start, rest⟩ : Script) s' d =
        prepareNext ⟨line, start, rest⟩ s' d := fun _ => rfl
    rw [hnext]
    unfold prepareNext
    by_cases hrest : (skipTerminators rest).isEmpty = true
    · rw [if_pos hrest, prepareFirst_of_isEmpty hrest]
      dsimp only
      rw [run_eq, told_eq]
    · rw [if_neg hrest]
      have hmore : (s'.prepareFirst d rest).1 ≠ .ok none := mt isEmpty_of_prepareFirst hrest
      revert hmore
      rcases s'.prepareFirst d rest with ⟨fault | _ | ⟨operation', rest'⟩, s''⟩
      · exact fun _ => rfl
      · exact fun hmore => absurd rfl hmore
      · exact fun _ => rfl

/-! ## Transactions -/

theorem perform_eq (text : String) (s : Session) (d : Disk) :
    Engine.perform text s d = ((s.runScript d text).1.mapError fun fault =>
      ⟨fault.cause.code?, fault.report text⟩, (s.runScript d text).2) := rfl

theorem prepareFirst_of_forall {operation : Operation} (hsame : operation.isChange = false)
    (h : ∀ schema, prepareIn schema ts = (.ok (some (operation, [])), false)) (s : Session)
    (d : Disk) : s.prepareFirst d ts = (.ok (some (operation, [])), s) := by
  have hanew : s.prepareAnew d ts = (.ok (some (operation, [])), s) := by
    rw [prepareAnew, h]
  unfold prepareFirst
  split
  · exact hanew
  · simp only [h, hanew, hsame, Option.any_some]

theorem runScript_of_forall {text : String} (operation : Operation)
    (hsame : operation.isChange = false)
    (h : ∀ schema, prepareIn schema (scan text.toList) = (.ok (some (operation, [])), false))
    (s : Session) (d : Disk) :
    s.runScript d text = ((s.step d operation).1.mapError .failed, (s.step d operation).2) := by
  have hnil : ∀ (s : Session) (d : Disk), s.prepareFirst d [] = (.ok none, s) :=
    fun s d => prepareFirst_of_isEmpty rfl
  have htokens : scan text.toList ≠ [] := by
    intro hnil
    have hnone := h (.ok ⟨.empty, []⟩)
    rw [hnil] at hnone
    cases hnone
  obtain ⟨t, ts, hts⟩ := List.exists_cons_of_ne_nil htokens
  have hfirst := prepareFirst_of_forall hsame h s d
  rw [hts] at hfirst
  rw [runScript, hts, runTokens, hfirst]
  dsimp only
  rcases s.step d operation with ⟨fault | _, s', d'⟩
  · rfl
  · dsimp only
    rw [List.length_cons, runTokens, hnil]
    rfl

/-- The word `BEGIN` begins a transaction. -/
theorem perform_begin (h : s.autocommit = true) (d : Disk) :
    Engine.perform "BEGIN" s d = (.ok (), { s with autocommit := false }, d) := by
  have hscript : s.runScript d "BEGIN" = (.ok (), { s with autocommit := false }, d) := by
    rw [runScript_of_forall (.begin .deferred) rfl (fun _ => rfl)]
    simp only [step, begin, h, if_true]
    rfl
  rw [perform_eq, hscript]
  rfl

/-- The word `COMMIT` commits. -/
theorem perform_commit (h : s.autocommit = false) (d : Disk) :
    Engine.perform "COMMIT" s d = ((s.commit d).1.mapError fun fault =>
      ⟨fault.code?, fault.message⟩, (s.commit d).2) := by
  have hscript : s.runScript d "COMMIT" = ((s.commit d).1.mapError .failed, (s.commit d).2) := by
    rw [runScript_of_forall .commit rfl (fun _ => rfl)]
    simp only [step, h, Bool.false_eq_true, if_false]
  rw [perform_eq, hscript]
  rcases s.commit d with ⟨_ | _, x⟩ <;> rfl

/-! ## Opening -/

/-- A file that can be opened is opened in a new transaction. -/
theorem openDatabase_eq (busyTimeoutMs : UInt64) (p : Path) (d : Disk) :
    Target.openDatabase busyTimeoutMs p d = match opening d p with
      | (none, d) => (.error (.connection "reset_database"
          ("unable to open database file: " ++ p.display)), d)
      | (some s, d) => (.ok { s with autocommit := false }, d) := by
  have hopening : Engine.opening p d = openingAt p d := rfl
  have hfresh : ∀ s e, opening d p = (some s, e) → s.autocommit = true := by
    intro s e h
    unfold opening at h
    split at h
    · cases h
    · cases h
      rfl
  unfold Target.openDatabase
  rw [hopening, openingAt]
  rcases hopen : opening d p with ⟨_ | s, e⟩
  · rfl
  · have henter : Target.enter busyTimeoutMs s e = Engine.perform "BEGIN" s e := rfl
    dsimp only
    rw [henter, perform_begin (hfresh s e hopen)]

end Session

end SqlReplay.Sql
