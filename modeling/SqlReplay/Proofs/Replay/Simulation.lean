import SqlReplay.Replay.Run

/-!
# Connections that answer alike

If two connections answer the lines of a log alike and stay related, a replay on one goes as on the
other: same result, same events, related in the end (`Simulation.replay`).  How many statements a
run attempts is told by the log alone, unless the session is lost (`attempted_of_not_lost`).
-/

namespace SqlReplay.Replay

variable {σ τ : Type} [Connection σ] [Connection τ]

/-- A run that does not lose its session has attempted every statement. -/
theorem attempted_of_not_lost {statements : List LoggedStatement} {s : σ}
    (h : (runStatements statements s).lost = none) :
    (runStatements statements s).attempted = statements.length := by
  induction statements generalizing s with
  | nil => rfl
  | cons statement rest ih =>
    unfold runStatements at h ⊢
    generalize Connection.execute statement.sql s = got at h ⊢
    obtain ⟨(message | message) | _, s'⟩ := got
    · cases h
    · exact congrArg (· + 1) (ih h)
    · exact congrArg (· + 1) (ih h)

/-- Whether related connections answer the given lines and commits alike, and stay related. -/
structure Simulation (lines : String → Prop) (R : σ → τ → Prop) : Prop where
  execute : ∀ {s t}, R s t → ∀ sql, lines sql →
    (Connection.execute sql s).1 = (Connection.execute sql t).1 ∧
      R (Connection.execute sql s).2 (Connection.execute sql t).2
  commit : ∀ {s t}, R s t → (Connection.commit s).1 = (Connection.commit t).1 ∧
    R (Connection.commit s).2 (Connection.commit t).2

namespace Simulation

variable {lines : String → Prop} {R : σ → τ → Prop} {s : σ} {t : τ}

theorem runStatements (hR : Simulation lines R) (h : R s t) {statements : List LoggedStatement}
    (hlines : ∀ st ∈ statements, lines st.sql) :
    let left := Replay.runStatements statements s
    let right := Replay.runStatements statements t
    left.lost = right.lost ∧ left.failures = right.failures ∧ left.events = right.events ∧
      R left.state right.state := by
  induction statements generalizing s t with
  | nil => exact ⟨rfl, rfl, rfl, h⟩
  | cons statement rest ih =>
    obtain ⟨hanswer, hnext⟩ := hR.execute h statement.sql (hlines statement List.mem_cons_self)
    have hrest := ih hnext fun st hst => hlines st (List.mem_cons_of_mem statement hst)
    simp only [Replay.runStatements]
    generalize Connection.execute statement.sql s = left at hanswer hnext hrest ⊢
    generalize Connection.execute statement.sql t = right at hanswer hnext hrest ⊢
    obtain ⟨answer, s'⟩ := left
    obtain ⟨answer', t'⟩ := right
    obtain rfl : answer = answer' := hanswer
    rcases answer with (message | message) | _
    · exact ⟨rfl, rfl, rfl, hnext⟩
    · obtain ⟨hlost, hfailures, hevents, hstate⟩ := hrest
      exact ⟨hlost, congrArg _ hfailures, congrArg _ hevents, hstate⟩
    · exact hrest

/-- A replay goes alike on connections that answer alike. -/
theorem replay (hR : Simulation lines R) (h : R s t) {log : ReplayLog}
    (hlines : ∀ st ∈ log.statements, lines st.sql) :
    (Replay.replay log s).result = (Replay.replay log t).result ∧
      (Replay.replay log s).events = (Replay.replay log t).events ∧
      R (Replay.replay log s).state (Replay.replay log t).state := by
  obtain ⟨hlost, hfailures, hevents, hstate⟩ := hR.runStatements h hlines
  obtain ⟨hanswer, hnext⟩ := hR.commit hstate
  simp only [Replay.replay, hlost]
  cases hnone : (Replay.runStatements log.statements t).lost with
  | some fault => exact ⟨rfl, hevents, hstate⟩
  | none =>
    have hattempted := (attempted_of_not_lost (hlost.trans hnone)).trans
      (attempted_of_not_lost hnone).symm
    generalize Connection.commit (Replay.runStatements log.statements s).state = left
      at hanswer hnext ⊢
    generalize Connection.commit (Replay.runStatements log.statements t).state = right
      at hanswer hnext ⊢
    obtain ⟨answer, s'⟩ := left
    obtain ⟨answer', t'⟩ := right
    obtain rfl : answer = answer' := hanswer
    cases answer with
    | error fault => exact ⟨rfl, by rw [hevents], hnext⟩
    | ok _ => exact ⟨by rw [hattempted, hfailures], by rw [hevents, hattempted, hfailures], hnext⟩

end Simulation

end SqlReplay.Replay
