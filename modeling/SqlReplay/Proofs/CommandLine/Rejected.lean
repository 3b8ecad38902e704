import SqlReplay.Proofs.CommandLine.ExitCodes
import SqlReplay.Proofs.Event.Touching

/-!
# Rejected commands

A command that fails because of its input has left the disk alone, except that a replay whose log
cannot be read has opened its journal and ended it (`rejected_touches_log_only`).  All else that may
be wrong with the input is found before the journal is opened, and once a target or a table has been
touched only the connection or a file can fail.
-/

namespace SqlReplay.CommandLine

open Storage Logging Disk

variable {c : Circumstances} {common : Common} {change : Config → Config} {disk : Disk}
  {errors : ErrorStream} {fault : Error}

theorem not_isConnection_of_isInput (h : fault.IsInput) : ¬ fault.IsConnection := by
  intro hconnection
  have huser := Error.isUserError_iff.2 h
  rw [hconnection.isUserError] at huser
  cases huser

theorem not_isIo_of_isInput (h : fault.IsInput) : ¬ fault.IsIo := by
  intro hio
  have huser := Error.isUserError_iff.2 h
  rw [hio.isUserError] at huser
  cases huser

/-- What a journal writes of a command that changed nothing itself is all that is touched. -/
theorem touchesOnly_logged (path : Path) (clock : Clock) {p : Performance}
    (hjournal : p.journal = some (Journal.opening path disk errors).journal)
    (hdisk : p.disk = (Journal.opening path disk errors).disk) :
    TouchesOnly path disk (p.logged clock).1 := by
  obtain ⟨hopening, hat⟩ := touchesOnly_opening path disk errors
  simp only [Performance.logged, Performance.writing, hjournal, hdisk]
  -- The error stream may have changed since, but no write to the file depends on it.
  have hat : AtPath path ⟨(Journal.opening path disk errors).journal,
      (Journal.opening path disk errors).disk, p.errors⟩ := hat
  obtain ⟨hwritten, hend⟩ := hat.writeAll (p.events.map clock.stamp)
  exact (hopening.trans hwritten).trans hend.touchesOnly_finish

/-- A rejected replay has touched its journal only. -/
theorem performReplay_rejected (clock : Clock) (hinput : fault.IsInput)
    (h : (performReplay c common change disk errors).answer = .error (.failed fault)) :
    ((performReplay c common change disk errors).logged clock).1 = disk ∨
      ∃ config, settingsFor c common disk change = .ok config ∧ TouchesOnly config.files.eventLog
        disk ((performReplay c common change disk errors).logged clock).1 := by
  unfold performReplay at h ⊢
  cases hsettings : settingsFor c common disk change with
  | error cause => exact Or.inl rfl
  | ok config =>
    simp only [hsettings] at h ⊢
    split at h
    · cases h
    · right
      obtain ⟨_, -, -, hvalid⟩ := settingsFor_eq_ok hsettings
      obtain ⟨cause, hresult, hcause⟩ := mapError_eq_error_iff.1 h
      cases hcause
      rcases Replay.run_eq_error (Config.validate_eq_ok hvalid).1 (map_eq_error_iff.1 hresult) with
        ⟨-, hrun⟩ | hconnection
      · exact ⟨config, rfl, touchesOnly_logged config.files.eventLog clock rfl
          (congrArg Replay.Outcome.state hrun)⟩
      · exact absurd hconnection (not_isConnection_of_isInput hinput)

/-- A rejected generation has not even opened its journal. -/
theorem performGenerate_rejected (clock : Clock) (hinput : fault.IsInput)
    (h : (performGenerate c common change disk errors).answer = .error (.failed fault)) :
    ((performGenerate c common change disk errors).logged clock).1 = disk := by
  unfold performGenerate at h ⊢
  cases hsettings : settingsFor c common disk change with
  | error cause => rfl
  | ok config =>
    simp only [hsettings] at h
    obtain ⟨_, -, -, hvalid⟩ := settingsFor_eq_ok hsettings
    obtain ⟨-, -, -, -, ⟨range, hrange⟩, catalog, hcatalog⟩ := Config.validate_eq_ok hvalid
    obtain ⟨cause, hresult, hcause⟩ := mapError_eq_error_iff.1 h
    cases hcause
    have hio := Weights.generate_isIo hcatalog hrange (map_eq_error_iff.1 hresult)
    exact absurd hio (not_isIo_of_isInput hinput)

/-- A command that fails was carried out so far. -/
theorem carryOut_of_failsWith {i : Invocation} (h : i.FailsWith c disk fault) :
    i.warns c disk = true ∧ (i.carryOut c disk).answer = .error (.failed fault) := by
  cases hwarns : i.warns c disk with
  | true => exact ⟨rfl, (answer_of_warns hwarns).symm.trans h⟩
  | false =>
    rw [Invocation.FailsWith, perform_of_unwarned hwarns] at h
    cases h

/-- A run that fails does not panic, so its journal is closed. -/
theorem disk_of_failsWith {i : Invocation} {clock : Clock} (h : i.FailsWith c disk fault) :
    (i.run c clock disk).disk = ((i.carryOut c disk).logged clock).1 := by
  have hproblem : i.problem? c clock disk = some (.failed fault) := problem?_of_error h
  have hcalm : (c.aborts && (i.problem? c clock disk).any Problem.panics) = false := by
    rw [hproblem]
    exact Bool.and_false _
  have hdisk : (i.run c clock disk).disk =
      if c.aborts && (i.problem? c clock disk).any Problem.panics then
        (i.perform c disk).abandoned clock else ((i.perform c disk).logged clock).1 := rfl
  rw [hdisk, hcalm, perform_of_warns (carryOut_of_failsWith h).1]
  rfl

/-- A run that ends in 1 leaves the disk as it was.  Only if it is a replay, and its settings can be
used, may it have made its journal and the directories above it, or have written to it. -/
theorem rejected_touches_log_only (i : Invocation) (c : Circumstances) (clock : Clock) (disk : Disk)
    (h : (i.run c clock disk).exitCode = 1) :
    (i.run c clock disk).disk = disk ∨
      ∃ log database dataDir config, i.command = .replay log database dataDir ∧
        settingsFor c i.common disk (replaySettings · log database dataDir) = .ok config ∧
        TouchesOnly config.files.eventLog disk (i.run c clock disk).disk := by
  obtain ⟨fault, hfault, hinput⟩ := rejected_of_exitCode_eq_one h
  rw [disk_of_failsWith hfault]
  have hfault := (carryOut_of_failsWith hfault).2
  obtain ⟨common, command⟩ := i
  cases command with
  | replay log database dataDir =>
    rcases performReplay_rejected clock hinput hfault with hsame | ⟨config, hsettings, htouches⟩
    · exact Or.inl hsame
    · exact Or.inr ⟨log, database, dataDir, config, rfl, hsettings, htouches⟩
  | generate output seed min max => exact Or.inl (performGenerate_rejected clock hinput hfault)
  | _ => exact Or.inl rfl

/-- A disk with a configuration file, but no log to replay. -/
def withoutLog : Disk := Disk.initial.place (.ofString "c.toml") (Utf8.ofString
  ("[target]\ndata_dir = \"d\"\n[weights]\noptions = [\"a\"]\n"
    ++ "[paths]\nevent_log = \"e/events\"\n"))

/-- A replay whose log is missing. -/
theorem rejected_touches_log_only_missing :
    let i : Invocation := ⟨⟨some (.ofString "c.toml"), true, false, false⟩, .replay none none none⟩
    let c : Circumstances := ⟨⟨[]⟩, false, none, true, ChaCha.Generator.ofSeed 0, false⟩
    (i.run c default withoutLog).exitCode = 1 ∧
      ((i.run c default withoutLog).disk = withoutLog ∨
        ∃ log database dataDir config, i.command = .replay log database dataDir ∧
          settingsFor c i.common withoutLog (replaySettings · log database dataDir) = .ok config ∧
          TouchesOnly config.files.eventLog withoutLog (i.run c default withoutLog).disk) := by
  intro i c
  have hanswer : ((i.perform c withoutLog).answer.map fun _ => ()) =
      .error (.failed (.notFound (.ofString "database0.log"))) := by decide +kernel
  have hcode : (i.run c default withoutLog).exitCode = 1 :=
    exitCode_of_rejected ⟨_, map_eq_error_iff.1 hanswer, .notFound _⟩
  exact ⟨hcode, rejected_touches_log_only i c default withoutLog hcode⟩

end SqlReplay.CommandLine
