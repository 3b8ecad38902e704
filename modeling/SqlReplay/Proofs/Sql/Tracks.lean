import SqlReplay.Proofs.Sql.Solo

/-!
# One transaction for many

A session that collects its changes in one transaction sees what a session sees that commits each
change at once (`Solo.Tracks`), as long as no operation controls transactions or attaches a file.
Operations succeed and fail alike, and one that fails leaves what is seen (`Solo.Tracks.step`).
-/

namespace SqlReplay.Sql

/-- Whether an operation does with the database the same in a transaction and outside. -/
def Operation.IsSteady : Operation → Prop
  | .query _ => True
  | .change _ => True
  | _ => False

namespace Solo

/-- Whether a session that has all its changes in one transaction sees what one sees that commits
each of them. -/
structure Tracks (a b : Solo) : Prop where
  inside : a.autocommit = false
  outside : b.autocommit = true
  /-- Everything is committed outside. -/
  working : b.working = none
  view : a.view = b.view
  limits : a.pageLimit = none ∧ b.pageLimit = none
  /-- Nobody looks at the file behind the session's back. -/
  attached : a.attached = [] ∧ b.attached = []

namespace Tracks

variable {a b : Solo}

theorem schema (h : Tracks a b) : a.schema = b.schema := by
  simp only [Solo.schema, h.view, h.attached.1, h.attached.2, List.map_nil]

theorem prepare (h : Tracks a b) (ts : List Token) : a.prepare ts = b.prepare ts := by
  simp only [Solo.prepare, h.schema]

theorem outcome (h : Tracks a b) (c : Change) :
    a.begun.outcome a.begun.view c = b.begun.outcome b.begun.view c := by
  simp only [Solo.outcome, view_begun, pageLimit_begun, h.view, h.limits.1, h.limits.2]

/-- What is committed outside is what is seen there. -/
theorem committed (h : Tracks a b) : b.committed = b.view := by
  simp only [Solo.view, h.working, Option.getD_none]

/-- A change succeeds or fails on both sides, and if it fails nothing else is seen. -/
theorem change (h : Tracks a b) (c : Change) :
    (a.change c).1 = (b.change c).1 ∧ Tracks (a.change c).2 (b.change c).2 ∧
      ((b.change c).1 ≠ .ok () → (b.change c).2.view = b.view) := by
  have hview : a.begun.view = b.begun.view := by rw [view_begun, view_begun, h.view]
  simp only [Solo.change, h.outcome c]
  cases houtcome : b.begun.outcome b.begun.view c with
  | error fault =>
    have hkept : ∀ writes, (b.begun.holding writes b.begun.view).rollBack.view = b.view := by
      intro writes
      rw [view_rollBack, ← h.committed, Solo.committed, Solo.committed, stored_holding,
        stored_begun]
    refine ⟨rfl, ?_, fun _ => ?_⟩
    · simp only [givenUp, autocommit_holding, autocommit_begun, h.inside, h.outside,
        Bool.false_eq_true, if_false, if_true]
      exact {
        inside := by simp only [autocommit_holding, autocommit_begun, h.inside]
        outside := rfl
        working := rfl
        view := by rw [view_holding, ite_self, view_begun, h.view, hkept]
        limits := by
          simp only [Solo.rollBack, pageLimit_holding, pageLimit_begun, h.limits, and_self]
        attached := by
          simp only [Solo.rollBack, attached_holding, attached_begun, h.attached, and_self] }
    · simp only [givenUp, autocommit_holding, autocommit_begun, h.outside, if_true, hkept]
  | ok changed =>
    refine ⟨rfl, ?_, fun hfail => absurd rfl hfail⟩
    simp only [settled, autocommit_holding, autocommit_begun, h.inside, h.outside,
      Bool.false_eq_true, if_false, if_true]
    exact {
      inside := by simp only [autocommit_holding, autocommit_begun, h.inside]
      outside := rfl
      working := rfl
      view := by rw [view_commit, view_holding, view_holding, hview]
      limits := by simp only [Solo.commit, pageLimit_holding, pageLimit_begun, h.limits, and_self]
      attached := by
        simp only [Solo.commit, attached_holding, attached_begun, h.attached, and_self] }

/-- A steady operation has the same result on both sides, whatever files there are to attach, and
leaves what is seen the same.  If it fails, nothing else is seen than before. -/
theorem step (h : Tracks a b) (offers offers' : String → Offer) {operation : Operation}
    (hsteady : operation.IsSteady) :
    (a.step offers operation).1 = (b.step offers' operation).1 ∧
      Tracks (a.step offers operation).2 (b.step offers' operation).2 ∧
      ((b.step offers' operation).1 ≠ .ok () → (b.step offers' operation).2.view = b.view) := by
  cases operation with
  | query reads => exact ⟨rfl, h, fun _ => rfl⟩
  | change c => exact h.change c
  | attach file name => exact hsteady.elim
  | begin mode => exact hsteady.elim
  | commit => exact hsteady.elim
  | rollback => exact hsteady.elim
  | limitPages n => exact hsteady.elim
  | outdated writes fault => exact hsteady.elim

end Tracks

end Solo

end SqlReplay.Sql
