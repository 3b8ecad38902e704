import SqlReplay.Proofs.Error
import SqlReplay.Proofs.Except
import SqlReplay.Proofs.Replay.Started

/-!
# How a replay fails

On a target with files, whatever its engine, every failure is one of the connection
(`IsConnection`), but for that of a log that cannot be read.  A replay whose log cannot be read has
touched nothing (`run_eq_error`).
-/

namespace SqlReplay

open Storage

theorem LogFormat.parseFile_eq_error {format : LogFormat} {disk : Disk} {path : Path}
    {fault : Error} (h : format.parseFile disk path = .error fault) :
    fault = .notFound path ∨ fault.IsIo := by
  unfold parseFile at h
  cases hread : disk.read path with
  | error cause =>
    simp only [hread, Except.error.injEq] at h
    exact h ▸ Error.ofRead_cases path cause
  | ok content =>
    cases hdecode : Utf8.decode content.bytes with
    | error cause =>
      simp only [hread, hdecode, Except.error.injEq] at h
      exact Or.inr ⟨_, _, h.symm⟩
    | ok text =>
      simp only [hread, hdecode] at h
      cases h

namespace Replay

namespace Target

variable {σ : Type} {t t' : Target σ} {d d' : Disk} {name : String} {fault : Error}

theorem connect_isConnection {dataDir : Path} {busyTimeoutMs : UInt64}
    (h : connect dataDir busyTimeoutMs d = (.error fault, t)) : fault.IsConnection := by
  unfold connect at h
  rcases hmake : d.makeDirectories dataDir with ⟨_ | _, e⟩
  · rw [hmake] at h
    cases h
    exact ⟨_, _, rfl⟩
  · rw [hmake] at h
    cases h

theorem dropFiles_isConnection {paths : List Path} (h : dropFiles paths d = (.error fault, d')) :
    fault.IsConnection := by
  induction paths generalizing d with
  | nil => cases h
  | cons path rest ih =>
    unfold dropFiles at h
    rcases hremove : d.removeFile path with ⟨cause | _, e⟩
    · rw [hremove] at h
      simp only at h
      split at h
      · exact ih h
      · cases h
        exact ⟨_, _, rfl⟩
    · rw [hremove] at h
      exact ih h

variable [Engine σ]

theorem deselect_isConnection (h : deselect t = (.error fault, t')) : fault.IsConnection := by
  unfold deselect at h
  split at h
  · cases h
  · obtain ⟨cause, -, rfl⟩ := mapError_eq_error_iff.1 (congrArg Prod.fst h)
    exact ⟨_, _, rfl⟩

theorem openDatabase_isConnection {busyTimeoutMs : UInt64} {p : Path}
    (h : openDatabase (σ := σ) busyTimeoutMs p d = (.error fault, d')) : fault.IsConnection := by
  unfold openDatabase at h
  split at h
  · cases h
    exact ⟨_, _, rfl⟩
  · split at h
    · cases h
    · cases h
      exact ⟨_, _, rfl⟩

theorem renew_isConnection (h : renew name t = (.error fault, t')) : fault.IsConnection := by
  unfold renew at h
  rcases hdrop : dropFiles (databaseFiles t.dataDir name) t.disk with ⟨cause | _, e⟩
  · simp only [hdrop] at h
    cases h
    exact dropFiles_isConnection hdrop
  · simp only [hdrop, select] at h
    rcases hopen : openDatabase (σ := σ) t.busyTimeoutMs (databaseFile t.dataDir name) e with
      ⟨cause | _, e'⟩
    · simp only [hopen] at h
      cases h
      exact openDatabase_isConnection hopen
    · simp only [hopen] at h
      cases h

theorem reset_isConnection (hname : checkDatabaseName name = .ok ())
    (h : reset name t = (.error fault, t')) : fault.IsConnection := by
  by_cases hopen : t.isOpen = true
  · rw [reset_of_admits ⟨hname, hopen⟩] at h
    rcases hlet : t.deselect with ⟨cause | _, u⟩
    · simp only [hlet] at h
      cases h
      exact deselect_isConnection hlet
    · simp only [hlet] at h
      exact renew_isConnection h
  · rw [reset_of_closed (Bool.eq_false_iff.2 hopen) hname] at h
    cases h
    exact ⟨_, _, rfl⟩

theorem commit_isConnection (h : commit t = (.error fault, t')) : fault.IsConnection := by
  unfold commit at h
  split at h
  · cases h
    exact ⟨_, _, rfl⟩
  · split at h
    · cases h
    · split at h
      · cases h
      · obtain ⟨cause, -, rfl⟩ := mapError_eq_error_iff.1 (congrArg Prod.fst h)
        exact ⟨_, _, rfl⟩

end Target

section Run

variable {σ : Type} [Connection σ] {s : σ} {log : ReplayLog} {fault : Error}

/-- What ends the statements of a log is the loss of the connection. -/
theorem lost_isConnection {statements : List LoggedStatement}
    (h : (runStatements statements s).lost = some fault) : fault.IsConnection := by
  induction statements generalizing s with
  | nil => cases h
  | cons statement rest ih =>
    unfold runStatements at h
    rcases hexecute : Connection.execute statement.sql s with ⟨(message | message) | _, s'⟩
    · simp only [hexecute] at h
      cases h
      exact ⟨_, _, rfl⟩
    · simp only [hexecute] at h
      exact ih h
    · simp only [hexecute] at h
      exact ih h

end Run

section Configured

variable {σ : Type} [Engine σ] {t : Target σ} {log : ReplayLog} {fault : Error} {config : Config}
  {disk : Disk}

theorem replay_isConnection (h : (replay log t).result = .error fault) : fault.IsConnection := by
  simp only [replay] at h
  cases hlost : (runStatements log.statements t).lost with
  | some lost =>
    simp only [hlost, Except.error.injEq] at h
    exact h ▸ lost_isConnection hlost
  | none =>
    simp only [hlost] at h
    rcases hcommit : Connection.commit (runStatements log.statements t).state with ⟨cause | _, t'⟩
    · simp only [hcommit, Except.error.injEq] at h
      exact h ▸ Target.commit_isConnection hcommit
    · simp only [hcommit] at h
      cases h

theorem runConnected_isConnection (hname : checkDatabaseName config.target.database = .ok ())
    (hempty : log.isEmpty = false) (h : (runConnected config log t).result = .error fault) :
    fault.IsConnection := by
  rcases hreset : Connection.reset config.target.database t with ⟨cause | _, u⟩
  · rw [runConnected_of_error hempty hreset] at h
    cases h
    exact Target.reset_isConnection hname hreset
  · rw [runConnected_of_ok hempty hreset] at h
    rcases bind_eq_error_iff.1 h with hreplay | ⟨report, -, hclose⟩
    · exact replay_isConnection (map_eq_error_iff.1 hreplay)
    · exact Target.deselect_isConnection (Prod.ext (map_eq_error_iff.1 hclose) rfl)

/-- A replay fails because its log cannot be read, and then has touched nothing, or because of the
connection. -/
theorem run_eq_error (hname : checkDatabaseName config.target.database = .ok ())
    (h : (runOn σ config disk).result = .error fault) :
    (config.logFormat.parseFile disk config.replay.logPath = .error fault ∧
      runOn σ config disk = ⟨.error fault, [], disk⟩) ∨ fault.IsConnection := by
  cases hlog : config.logFormat.parseFile disk config.replay.logPath with
  | error cause =>
    have hrun : runOn σ config disk = ⟨.error cause, [], disk⟩ := by simp only [runOn, hlog]
    rw [hrun] at h
    cases h
    exact Or.inl ⟨rfl, hrun⟩
  | ok log =>
    right
    cases hempty : log.isEmpty with
    | true =>
      rw [runOn_of_empty hlog hempty] at h
      cases h
    | false =>
      rcases hconnect : (Target.connect config.target.dataDir config.target.busyTimeoutMs disk :
        Except Error Unit × Target σ) with ⟨cause | _, t⟩
      · rw [run_of_not_connected hlog hempty hconnect] at h
        cases h
        exact Target.connect_isConnection hconnect
      · rw [run_of_connected hlog hempty hconnect] at h
        exact runConnected_isConnection hname hempty h

/-- A replay of a log with statements ran to its end if it did not fail. -/
theorem completed_of_statements {report : Report}
    (hlog : config.logFormat.parseFile disk config.replay.logPath = .ok log)
    (hempty : log.isEmpty = false) (h : (runOn σ config disk).result = .ok report) :
    report.status = .completed := by
  cases hstarted : started σ config disk with
  | error cause =>
    rw [run_of_not_started hlog hempty hstarted] at h
    cases h
  | ok t =>
    rw [run_of_started hlog hempty hstarted] at h
    obtain ⟨named, hnamed, hclose⟩ := bind_eq_ok_iff.1 h
    obtain ⟨-, -, rfl⟩ := map_eq_ok_iff.1 hclose
    obtain ⟨report', hreplay, rfl⟩ := map_eq_ok_iff.1 hnamed
    simp only [replay] at hreplay
    split at hreplay
    · cases hreplay
    · split at hreplay
      · cases hreplay
      · cases hreplay
        rfl

/-- A replay that found statements refused ran to its end. -/
theorem completed_of_run {report : Report} (h : (runOn σ config disk).result = .ok report)
    (hfailures : report.failures ≠ []) : report.status = .completed := by
  cases hlog : config.logFormat.parseFile disk config.replay.logPath with
  | error cause =>
    simp only [runOn, hlog] at h
    cases h
  | ok log =>
    cases hempty : log.isEmpty with
    | true =>
      rw [runOn_of_empty hlog hempty] at h
      cases h
      exact absurd rfl hfailures
    | false => exact completed_of_statements hlog hempty h

end Configured

end Replay

end SqlReplay
