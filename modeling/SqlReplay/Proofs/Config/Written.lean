import SqlReplay.Config.Document
import SqlReplay.Proofs.Except

/-!
# Settings without a written form

Settings are data unless one of their paths is no text (`document?_eq_none_iff`).  They are also a
configuration file unless one of their numbers is too large for one (`fileText_eq_error_iff`).
-/

namespace SqlReplay.Config

open Storage

/-- Whether a path of the settings is no text. -/
def HasUnreadablePath (c : Config) : Prop :=
  ∃ p ∈ [c.target.dataDir, c.replay.logPath, c.weights.outputPath, c.files.configFile,
    c.files.eventLog], p.text? = none

/-- Whether a number of the settings is too large for a configuration file. -/
def HasHugeNumber (c : Config) : Prop :=
  ∃ n ∈ c.target.busyTimeoutMs :: c.weights.seed.toList, UInt64.size / 2 ≤ n.toNat

variable {c : Config}

theorem document?_eq_none_iff : c.document? = none ↔ c.HasUnreadablePath := by
  simp only [HasUnreadablePath, List.mem_cons, List.not_mem_nil, or_false, exists_eq_or_imp,
    exists_eq_left]
  unfold document?
  cases c.target.dataDir.text? with
  | none => simp
  | some _ => cases c.replay.logPath.text? with
    | none => simp
    | some _ => cases c.weights.outputPath.text? with
      | none => simp
      | some _ => cases c.files.configFile.text? with
        | none => simp
        | some _ => cases c.files.eventLog.text? with
          | none => simp
          | some _ => simp

theorem stableHash_eq_error {fault : Error} (h : c.stableHash = .error fault) :
    fault = noCanonical ∧ c.HasUnreadablePath := by
  unfold stableHash canonical? at h
  cases hdocument : c.document? with
  | none =>
    simp only [hdocument, Option.map_none, Except.error.injEq] at h
    exact ⟨h.symm, document?_eq_none_iff.1 hdocument⟩
  | some d =>
    simp only [hdocument, Option.map_some] at h
    cases h

theorem exists_pathScalar_eq_error_iff {p : Path} :
    (∃ fault, pathScalar p = .error fault) ↔ p.text? = none := by
  unfold pathScalar
  cases p.text? <;> simp

theorem exists_numberScalar_eq_error_iff {n : UInt64} :
    (∃ fault, numberScalar n = .error fault) ↔ UInt64.size / 2 ≤ n.toNat := by
  unfold numberScalar
  split <;> simp <;> omega

theorem fileText_eq_error_iff :
    (∃ fault, c.fileText = .error fault) ↔ c.HasUnreadablePath ∨ c.HasHugeNumber := by
  have hdone {α : Type} (a : α) :
      (∃ fault, (pure a : Except FileFault α) = .error fault) ↔ False := by
    simp [pure, Except.pure]
  simp only [fileText, map_eq_error_iff, HasUnreadablePath, HasHugeNumber, List.mem_cons,
    List.not_mem_nil, or_false, exists_eq_or_imp, exists_eq_left, Option.mem_toList]
  unfold sections
  -- The sections are put together from one setting after the other, the seed only if there is one.
  cases c.weights.seed with
  | none =>
    refine (exists_bind_eq_error_iff fun _ => exists_bind_eq_error_iff fun _ =>
      exists_bind_eq_error_iff fun _ => exists_bind_eq_error_iff fun _ =>
      exists_bind_eq_error_iff fun _ => exists_bind_eq_error_iff fun _ =>
      exists_bind_eq_error_iff fun _ => hdone _).trans ?_
    simp only [hdone, exists_pathScalar_eq_error_iff, exists_numberScalar_eq_error_iff]
    grind
  | some seed =>
    refine (exists_bind_eq_error_iff fun _ => exists_bind_eq_error_iff fun _ =>
      exists_bind_eq_error_iff fun _ => exists_bind_eq_error_iff fun _ =>
      exists_bind_eq_error_iff fun _ => exists_bind_eq_error_iff fun _ =>
      exists_bind_eq_error_iff fun _ => hdone _).trans ?_
    simp only [map_eq_error_iff, exists_pathScalar_eq_error_iff, exists_numberScalar_eq_error_iff]
    grind

end SqlReplay.Config
