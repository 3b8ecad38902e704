import SqlReplay.Proofs.Config.Loading

/-!
# Questions for the home directory

Settings that could be read have asked for the home directory: the defaults of all sections are
made however the settings were given (`defaultQuestions_le_questions`).  So where no home directory
is known this is told, unless loading fails early.
-/

namespace SqlReplay

open Storage

theorem Environment.warnings_eq_empty_iff {env : Environment} {questions : Nat} :
    env.warnings questions = "" ↔ env.isHomeless = true → questions = 0 := by
  unfold warnings
  cases env.isHomeless with
  | false => exact iff_of_true rfl nofun
  | true => cases questions with
    | zero => exact iff_of_true rfl fun _ => rfl
    | succ n =>
      refine iff_of_false (fun h => ?_) (fun h => absurd (h rfl) (Nat.succ_ne_zero n))
      rw [if_pos rfl, List.replicate_succ, ← String.toList_inj, String.toList_join] at h
      cases h

namespace Config

variable {env : Environment} {disk : Disk} {asked : Option Path} {base c : Config} {d : Document}

/-- Every part of a document that is read as settings can be read. -/
theorem readsPart_of_ofDocument? (h : ofDocument? .lenient base d = some c) (name : String) :
    readsPart base d name = true := by
  unfold ofDocument? at h
  split at h
  · cases h
  simp only [Option.bind_eq_bind, Option.bind_eq_some_iff] at h
  obtain ⟨target, htarget, replay, hreplay, weights, hweights, files, hfiles, -⟩ := h
  unfold readsPart
  rw [htarget, hreplay, hweights, hfiles]
  simp only [Option.isSome_some, ite_self]

/-- If every part can be read, all defaults are made in the end. -/
theorem defaultQuestions_le_partQuestions (h : ∀ name, readsPart base d name = true)
    (names : List String) : defaultQuestions ≤ partQuestions base d names := by
  induction names with
  | nil => exact Nat.le_refl _
  | cons name rest ih =>
    rw [partQuestions, if_pos (h name)]
    exact Nat.le_add_left_of_le ih

/-- Settings that could be read have asked for all defaults. -/
theorem defaultQuestions_le_questions (h : ofSources env disk asked = .ok c) :
    defaultQuestions ≤ questions env disk asked := by
  simp only [ofSources, map_eq_ok_iff] at h
  obtain ⟨c', hsource, -⟩ := h
  unfold questions
  refine Nat.le_add_left_of_le ?_
  split
  · next hpresent =>
    rw [if_pos hpresent] at hsource
    unfold ofFile at hsource
    unfold fileQuestions
    split at hsource
    · cases hsource
    · split at hsource
      · cases hsource
      · next text hdecode =>
        unfold ofFileText at hsource
        cases hparse : Toml.parse? text with
        | none =>
          rw [hparse] at hsource
          cases hsource
        | some d =>
          cases hread : ofDocument? .lenient (Config.default env.home) d with
          | none => simp only [hparse, Option.bind_some, hread, reduceCtorEq] at hsource
          | some c'' =>
            simp only [*]
            exact defaultQuestions_le_partQuestions (readsPart_of_ofDocument? hread) d.names
  · next hmissing =>
    rw [if_neg hmissing] at hsource
    split
    · next hasked =>
      rw [if_pos hasked] at hsource
      cases hsource
    · exact Nat.le_refl _

theorem questions_ne_zero (h : ofSources env disk asked = .ok c) :
    questions env disk asked ≠ 0 := by
  have hasks := defaultQuestions_le_questions h
  have hsome : 0 < defaultQuestions := by decide
  omega

end Config

end SqlReplay
