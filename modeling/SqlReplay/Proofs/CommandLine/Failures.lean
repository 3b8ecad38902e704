import SqlReplay.CommandLine.Ended
import SqlReplay.Proofs.Config.Questions
import SqlReplay.Proofs.Config.Written

/-!
# How commands fail

A command that is not carried out fails because of its input, the connection or a file
(`answer_eq_error`).  There are three exceptions: settings that are checked may have no hash, the
announcement of a replay may not reach the reader, and where no home directory is known the error
stream may not take the warning of that.
-/

namespace SqlReplay.CommandLine

open Storage

variable {c : Circumstances} {common : Common} {disk : Disk} {change : Config → Config}
  {config : Config} {fault : Error} {errors : ErrorStream}

theorem settingsFor_eq_ok (h : settingsFor c common disk change = .ok config) :
    ∃ loaded, Config.load c.environment disk common.config = .ok loaded ∧
      change loaded = config ∧ config.validate = .ok () := by
  simp only [settingsFor, bind_eq_ok_iff, pure, Except.pure, Except.ok.injEq] at h
  obtain ⟨loaded, hload, ⟨⟩, hvalid, rfl⟩ := h
  exact ⟨loaded, hload, rfl, hvalid⟩

/-- Whether a failure ends a command the usual way: it is one of the input, of the connection or of
a file. -/
def Usual (fault : Error) : Prop := fault.IsInput ∨ fault.IsConnection ∨ fault.IsIo

theorem usual_of_input_or_io (h : fault.IsInput ∨ fault.IsIo) : Usual fault := h.imp_right Or.inr

theorem usual_of_settingsFor (h : settingsFor c common disk change = .error fault) :
    Usual fault := by
  simp only [settingsFor, bind_eq_error_iff] at h
  rcases h with h | ⟨loaded, -, h | ⟨_, -, h⟩⟩
  · exact usual_of_input_or_io (Config.load_eq_error h)
  · obtain ⟨details, rfl⟩ := Config.validate_eq_error h
    exact Or.inl (.invalidConfig details)
  · cases h

theorem usual_of_run (hvalid : config.validate = .ok ())
    (h : (Replay.run config disk).result = .error fault) : Usual fault := by
  rcases Replay.run_eq_error (Config.validate_eq_ok hvalid).1 h with ⟨hlog, -⟩ | hfault
  · rcases LogFormat.parseFile_eq_error hlog with rfl | hfault
    · exact Or.inl (.notFound _)
    · exact Or.inr (Or.inr hfault)
  · exact Or.inr (Or.inl hfault)

theorem usual_of_generate {σ : Type} [WordSource σ] {source : σ} (hvalid : config.validate = .ok ())
    (h : (Weights.generate config source disk).result = .error fault) : Usual fault := by
  obtain ⟨-, -, -, -, ⟨range, hrange⟩, catalog, hcatalog⟩ := Config.validate_eq_ok hvalid
  exact Or.inr (Or.inr (Weights.generate_isIo hcatalog hrange h))

theorem usual_of_tablePath {given : Option Path}
    (h : tablePath c common disk given = .error fault) : Usual fault := by
  unfold tablePath at h
  split at h
  · cases h
  · exact usual_of_input_or_io (Config.load_eq_error (map_eq_error_iff.1 h))

theorem usual_of_load {path : Path} (h : Weights.Table.load disk path = .error fault) :
    Usual fault := by
  rcases Weights.Table.load_eq_error h with rfl | ⟨line, details, rfl⟩ | hfault
  · exact Or.inl (.notFound path)
  · exact Or.inl (.weightTable path line details)
  · exact Or.inr (Or.inr hfault)

theorem usual_of_heaviestOf {given : Option Path} {top : Nat}
    (h : heaviestOf c common disk given top = .error fault) : Usual fault := by
  simp only [heaviestOf, bind_eq_error_iff] at h
  rcases h with h | ⟨path, -, h | ⟨table, -, h⟩⟩
  · exact usual_of_tablePath h
  · exact usual_of_load h
  · cases h

theorem usual_of_drawFrom {given : Option Path} {count : Nat} {seed : Option UInt64}
    (h : drawFrom c common disk given count seed = .error fault) : Usual fault := by
  simp only [drawFrom, bind_eq_error_iff] at h
  rcases h with h | ⟨path, -, h | ⟨table, -, h | ⟨sampler, -, h⟩⟩⟩
  · exact usual_of_tablePath h
  · exact usual_of_load h
  · obtain ⟨cause, -, rfl⟩ := mapError_eq_error_iff.1 h
    exact Or.inl (.invalidConfig _)
  · cases h

/-! ## Commands that change something -/

theorem answer_of_performReplay_eq_ok {answer : Answer}
    (h : (performReplay c common change disk errors).answer = .ok answer) :
    ∃ config e report, (Replay.run config e).result = .ok report ∧
      answer = .replayed config.replay.logPath report := by
  unfold performReplay at h
  cases hsettings : settingsFor c common disk change with
  | error cause =>
    simp only [hsettings, Performance.plain] at h
    cases h
  | ok config =>
    simp only [hsettings] at h
    split at h
    · cases h
    · obtain ⟨report, hreport, rfl⟩ := map_eq_ok_iff.1 (mapError_eq_ok_iff.1 h)
      exact ⟨config, _, report, hreport, rfl⟩

theorem answer_of_performGenerate_eq_ok {answer : Answer}
    (h : (performGenerate c common change disk errors).answer = .ok answer) :
    ∃ summary, answer = .generated summary := by
  unfold performGenerate at h
  cases hsettings : settingsFor c common disk change with
  | error cause =>
    simp only [hsettings, Performance.plain] at h
    cases h
  | ok config =>
    simp only [hsettings] at h
    obtain ⟨summary, -, rfl⟩ := map_eq_ok_iff.1 (mapError_eq_ok_iff.1 h)
    exact ⟨summary, rfl⟩

theorem answer_of_performReplay_eq_error {problem : Problem}
    (h : (performReplay c common change disk errors).answer = .error problem) :
    (∃ fault, problem = .failed fault ∧ Usual fault) ∨
      ∃ fault, problem = .unprintable fault ∧ c.outputFault = some fault := by
  unfold performReplay at h
  cases hsettings : settingsFor c common disk change with
  | error cause =>
    simp only [hsettings, Performance.plain, Except.error.injEq] at h
    exact Or.inl ⟨cause, h.symm, usual_of_settingsFor hsettings⟩
  | ok config =>
    simp only [hsettings] at h
    split at h
    · next fault hfilter =>
      simp only [Performance.plain, Except.error.injEq] at h
      exact Or.inr ⟨fault, h.symm, (Option.filter_eq_some_iff.1 hfilter).1⟩
    · obtain ⟨_, -, hvalid⟩ := settingsFor_eq_ok hsettings
      obtain ⟨cause, hresult, rfl⟩ := mapError_eq_error_iff.1 h
      exact Or.inl ⟨cause, rfl, usual_of_run hvalid.2 (map_eq_error_iff.1 hresult)⟩

theorem answer_of_performGenerate_eq_error {problem : Problem}
    (h : (performGenerate c common change disk errors).answer = .error problem) :
    ∃ fault, problem = .failed fault ∧ Usual fault := by
  unfold performGenerate at h
  cases hsettings : settingsFor c common disk change with
  | error cause =>
    simp only [hsettings, Performance.plain, Except.error.injEq] at h
    exact ⟨cause, h.symm, usual_of_settingsFor hsettings⟩
  | ok config =>
    simp only [hsettings] at h
    obtain ⟨_, -, hvalid⟩ := settingsFor_eq_ok hsettings
    obtain ⟨cause, hresult, rfl⟩ := mapError_eq_error_iff.1 h
    exact ⟨cause, rfl, usual_of_generate hvalid.2 (map_eq_error_iff.1 hresult)⟩

/-- Whether the settings are only checked and can be used, but have no hash. -/
def Invocation.Unhashed (i : Invocation) (c : Circumstances) (disk : Disk) : Prop :=
  i.command = .configValidate ∧
    ∃ config, Config.load c.environment disk i.common.config = .ok config ∧
      config.HasUnreadablePath

theorem validateSettings_eq_error (h : validateSettings c common disk = .error fault) :
    Usual fault ∨ fault = Config.noCanonical ∧
      ∃ config, Config.load c.environment disk common.config = .ok config ∧
        config.HasUnreadablePath := by
  simp only [validateSettings, bind_eq_error_iff] at h
  rcases h with h | ⟨config, hload, h | ⟨hash, -, h⟩⟩
  · exact Or.inl (usual_of_input_or_io (Config.load_eq_error h))
  · obtain ⟨rfl, hpath⟩ := Config.stableHash_eq_error h
    exact Or.inr ⟨rfl, config, hload, hpath⟩
  · cases h

/-! ## All commands -/

/-- What the answer of a command can be. -/
inductive Answered (i : Invocation) (c : Circumstances) (disk : Disk) : Answer → Prop
  | replayed {config : Config} {e : Disk} {report : Replay.Report}
      (hrun : (Replay.run config e).result = .ok report) :
      Answered i c disk (.replayed config.replay.logPath report)
  | generated (summary : Weights.Summary) : Answered i c disk (.generated summary)
  | heaviest (path : Path) (table : Weights.Table) (top : List Weights.Entry) :
      Answered i c disk (.heaviest path table top)
  | drawn (path : Path) (draws : List Weights.Entry) : Answered i c disk (.drawn path draws)
  | configFile (path : Path) (present : Bool) : Answered i c disk (.configFile path present)
  | settings {config : Config} (hcommand : i.command = .configShow)
      (hload : Config.load c.environment disk i.common.config = .ok config) :
      Answered i c disk (.settings config)
  | valid (source : Path) (hash : String) : Answered i c disk (.valid source hash)
  | completions (shell : Shell) : Answered i c disk (.completions shell)

theorem answered_of_carryOut {i : Invocation} {answer : Answer}
    (h : (i.carryOut c disk).answer = .ok answer) : Answered i c disk answer := by
  obtain ⟨common, command⟩ := i
  cases command with
  | replay log database dataDir =>
    obtain ⟨_, _, _, hrun, rfl⟩ := answer_of_performReplay_eq_ok h
    exact .replayed hrun
  | generate output seed min max =>
    obtain ⟨summary, rfl⟩ := answer_of_performGenerate_eq_ok h
    exact .generated summary
  | showTable path top =>
    have hok := mapError_eq_ok_iff.1 h
    simp only [heaviestOf, bind_eq_ok_iff, pure, Except.pure, Except.ok.injEq] at hok
    obtain ⟨path, -, table, -, rfl⟩ := hok
    exact .heaviest path table _
  | sample path count seed =>
    have hok := mapError_eq_ok_iff.1 h
    simp only [drawFrom, bind_eq_ok_iff, pure, Except.pure, Except.ok.injEq] at hok
    obtain ⟨path, -, table, -, sampler, -, rfl⟩ := hok
    exact .drawn path _
  | configPath =>
    cases h
    exact .configFile _ _
  | configShow =>
    obtain ⟨config, hload, rfl⟩ := map_eq_ok_iff.1 (mapError_eq_ok_iff.1 h)
    exact .settings rfl hload
  | configValidate =>
    have hok := mapError_eq_ok_iff.1 h
    simp only [validateSettings, bind_eq_ok_iff, pure, Except.pure, Except.ok.injEq] at hok
    obtain ⟨config, -, hash, -, rfl⟩ := hok
    exact .valid _ hash
  | completions shell =>
    cases h
    exact .completions shell

theorem carryOut_eq_error {i : Invocation} {problem : Problem}
    (h : (i.carryOut c disk).answer = .error problem) :
    (∃ fault, problem = .failed fault ∧ Usual fault) ∨
      (problem = .failed Config.noCanonical ∧ i.Unhashed c disk) ∨
      ∃ fault, problem = .unprintable fault ∧ c.outputFault = some fault := by
  obtain ⟨common, command⟩ := i
  cases command with
  | replay log database dataDir =>
    exact (answer_of_performReplay_eq_error h).imp_right Or.inr
  | generate output seed min max => exact Or.inl (answer_of_performGenerate_eq_error h)
  | showTable path top =>
    obtain ⟨fault, hfault, rfl⟩ := mapError_eq_error_iff.1 h
    exact Or.inl ⟨fault, rfl, usual_of_heaviestOf hfault⟩
  | sample path count seed =>
    obtain ⟨fault, hfault, rfl⟩ := mapError_eq_error_iff.1 h
    exact Or.inl ⟨fault, rfl, usual_of_drawFrom hfault⟩
  | configPath => cases h
  | configShow =>
    obtain ⟨fault, hfault, rfl⟩ := mapError_eq_error_iff.1 h
    exact Or.inl ⟨fault, rfl,
      usual_of_input_or_io (Config.load_eq_error (map_eq_error_iff.1 hfault))⟩
  | configValidate =>
    obtain ⟨fault, hfault, rfl⟩ := mapError_eq_error_iff.1 h
    rcases validateSettings_eq_error hfault with husual | ⟨rfl, hunhashed⟩
    · exact Or.inl ⟨fault, rfl, husual⟩
    · exact Or.inr (Or.inl ⟨rfl, rfl, hunhashed⟩)
  | completions shell => cases h

/-! ## Warnings -/

section Warnings

variable {i : Invocation}

/-- Whether no home directory is known and the error stream does not take the warning of that. -/
def Invocation.Unwarned (i : Invocation) (c : Circumstances) (disk : Disk) : Prop :=
  i.warns c disk = false

theorem perform_of_warns (h : i.warns c disk = true) :
    i.perform c disk = { i.carryOut c disk with warned := i.warnings c disk } := if_pos h

theorem perform_of_unwarned (h : i.Unwarned c disk) :
    i.perform c disk = .plain (.error .unwarned) disk ⟨c.errorsAccept, ""⟩ :=
  if_neg (Bool.eq_false_iff.1 h)

theorem warns_of_accepts (h : c.errorsAccept = true) : i.warns c disk = true := by
  rw [Invocation.warns, h, Bool.true_or]

theorem warnings_eq_empty (h : c.environment.isHomeless = false) : i.warnings c disk = "" := by
  rw [Invocation.warnings, Environment.warnings, h]
  rfl

theorem accepts_of_unwarned (h : i.Unwarned c disk) : c.errorsAccept = false := by
  cases haccept : c.errorsAccept with
  | false => rfl
  | true => cases h.symm.trans (warns_of_accepts haccept)

/-- Settings that were read have asked for the home directory, so it has to be told if none is
known. -/
theorem warns_iff_of_ofSources
    (hquestions : i.questions c disk = Config.questions c.environment disk i.common.config)
    (h : Config.ofSources c.environment disk i.common.config = .ok config) :
    i.warns c disk = true ↔ c.environment.isHomeless = true → c.errorsAccept = true := by
  have hasked := Config.questions_ne_zero h
  rw [Invocation.warns, Bool.or_eq_true, String.isEmpty_iff, Invocation.warnings, hquestions,
    Environment.warnings_eq_empty_iff]
  constructor
  · rintro (haccept | hquiet) hhome
    · exact haccept
    · exact absurd (hquiet hhome) hasked
  · intro h
    by_cases hhome : c.environment.isHomeless = true
    · exact Or.inl (h hhome)
    · exact Or.inr fun hother => absurd hother hhome

/-- What a command that could be warned comes to is what carrying it out comes to. -/
theorem answer_of_warns (h : i.warns c disk = true) :
    (i.perform c disk).answer = (i.carryOut c disk).answer := by rw [perform_of_warns h]

end Warnings

theorem answered_of_perform {i : Invocation} {answer : Answer}
    (h : (i.perform c disk).answer = .ok answer) : Answered i c disk answer := by
  cases hwarns : i.warns c disk with
  | true => exact answered_of_carryOut ((answer_of_warns hwarns).symm.trans h)
  | false =>
    rw [perform_of_unwarned hwarns] at h
    cases h

/-- A command is not carried out because of a usual failure, because settings that are checked have
no hash, because a replay could not be announced, or because it could not be told that no home
directory is known. -/
theorem answer_eq_error {i : Invocation} {problem : Problem}
    (h : (i.perform c disk).answer = .error problem) :
    (∃ fault, problem = .failed fault ∧ Usual fault) ∨
      (problem = .failed Config.noCanonical ∧ i.Unhashed c disk) ∨
      (∃ fault, problem = .unprintable fault ∧ c.outputFault = some fault) ∨
      i.Unwarned c disk := by
  cases hwarns : i.warns c disk with
  | true =>
    rcases carryOut_eq_error ((answer_of_warns hwarns).symm.trans h) with h | h | h
    · exact Or.inl h
    · exact Or.inr (Or.inl h)
    · exact Or.inr (Or.inr (Or.inl h))
  | false => exact Or.inr (Or.inr (Or.inr hwarns))

end SqlReplay.CommandLine
