import SqlReplay.Proofs.Replay.Trace
import SqlReplay.Proofs.Replay.Uses
import SqlReplay.Proofs.Storage.Making

/-!
# The stages of a configured run

A run that reads a log with statements connects its target, starts the database over, replays the
log and closes the target, whatever came before (`run_of_connected`).  The target before the first
statement is what runs are compared by (`started`).
-/

namespace SqlReplay.Replay

open Storage

variable {σ : Type} [Engine σ] {config : Config} {disk : Disk} {log : ReplayLog} {t : Target σ}

/-- A log without statements touches nothing. -/
theorem runOn_of_empty (hlog : config.logFormat.parseFile disk config.replay.logPath = .ok log)
    (hempty : log.isEmpty = true) : runOn σ config disk = ⟨.ok .nothingToRun, [], disk⟩ := by
  simp only [runOn, hlog, hempty, if_true]

/-- A run whose log has no statement, or cannot be read, does nothing. -/
theorem runOn_of_no_statement
    (hnone : ∀ log, config.logFormat.parseFile disk config.replay.logPath = .ok log →
      log.isEmpty = true) :
    runOn σ config disk = ⟨(config.logFormat.parseFile disk config.replay.logPath).map fun _ =>
      .nothingToRun, [], disk⟩ := by
  unfold runOn
  cases hlog : config.logFormat.parseFile disk config.replay.logPath with
  | error fault => rfl
  | ok log =>
    simp only [hnone log hlog, if_true]
    rfl

/-- What a run comes to on a target that is connected. -/
def runConnected (config : Config) (log : ReplayLog) (t : Target σ) : Outcome Disk Report :=
  let replayed := resetAndReplay config.target.database log t
  ⟨replayed.result.bind fun report => replayed.state.close.1.map fun _ => report,
    replayed.events, replayed.state.close.2.disk⟩

/-- The target of a run once it is connected, on the disk that has its directory. -/
def connected (σ : Type) (config : Config) (d : Disk) : Target σ :=
  ⟨config.target.dataDir, config.target.busyTimeoutMs, true, none, none, d⟩

omit [Engine σ] in
theorem connect_of_made {d : Disk}
    (hmake : disk.makeDirectories config.target.dataDir = (.ok (), d)) :
    Target.connect config.target.dataDir config.target.busyTimeoutMs disk =
      (.ok (), connected σ config d) := by
  rw [Target.connect, hmake]
  rfl

omit [Engine σ] in
theorem connect_of_not_made {fault : Fault} {d : Disk}
    (hmake : disk.makeDirectories config.target.dataDir = (.error fault, d)) :
    Target.connect config.target.dataDir config.target.busyTimeoutMs disk =
      (.error (.connection "connect" ("cannot create data dir " ++ config.target.dataDir.display ++
        ": " ++ fault.message)), { connected σ config d with isOpen := false }) := by
  rw [Target.connect, hmake]
  rfl

omit [Engine σ] in
/-- A target that connects makes its directory and has no database selected. -/
theorem connect_eq_ok
    (h : Target.connect config.target.dataDir config.target.busyTimeoutMs disk = (.ok (), t)) :
    ∃ d, disk.makeDirectories config.target.dataDir = (.ok (), d) ∧ t = connected σ config d := by
  unfold Target.connect at h
  rcases hmake : disk.makeDirectories config.target.dataDir with ⟨_ | _, d⟩
  · rw [hmake] at h
    cases h
  · rw [hmake] at h
    cases h
    exact ⟨d, rfl, rfl⟩

theorem run_of_connected
    (hlog : config.logFormat.parseFile disk config.replay.logPath = .ok log)
    (hne : log.isEmpty = false)
    (hconnect : Target.connect config.target.dataDir config.target.busyTimeoutMs disk =
      (.ok (), t)) :
    runOn σ config disk = runConnected config log t := by
  have hopen : t.isOpen = true := by
    obtain ⟨d, -, rfl⟩ := connect_eq_ok hconnect
    rfl
  unfold runConnected
  simp only [runOn, hlog, hne, Bool.false_eq_true, if_false, hconnect,
    finished_of_open (Target.isOpen_resetAndReplay hopen config.target.database log)]

/-- A run whose target cannot be connected fails. -/
theorem run_of_not_connected {fault : Error}
    (hlog : config.logFormat.parseFile disk config.replay.logPath = .ok log)
    (hne : log.isEmpty = false)
    (hconnect : (Target.connect config.target.dataDir config.target.busyTimeoutMs disk :
      Except Error Unit × Target σ) = (.error fault, t)) :
    runOn σ config disk = ⟨.error fault, [], t.disk⟩ := by
  simp only [runOn, hlog, hne, Bool.false_eq_true, if_false, hconnect]

/-- A run whose database cannot be started over tells so and closes the target. -/
theorem runConnected_of_error {fault : Error} {u : Target σ} (hne : log.isEmpty = false)
    (hreset : Connection.reset config.target.database t = (.error fault, u)) :
    runConnected config log t = ⟨.error fault, [startEvent config.target.database log,
      { aborted fault with database := some config.target.database }], u.close.2.disk⟩ := by
  unfold runConnected
  simp only [resetAndReplay, resetDatabase, hne, Bool.false_eq_true, if_false, hreset]
  rfl

/-- A run whose database could be started over replays the log and closes the target. -/
theorem runConnected_of_ok {u : Target σ} (hne : log.isEmpty = false)
    (hreset : Connection.reset config.target.database t = (.ok (), u)) :
    runConnected config log t =
      ⟨((replay log u).result.map fun report =>
          { report with database := some config.target.database }).bind fun report =>
            (replay log u).state.close.1.map fun _ => report,
        startEvent config.target.database log :: resetEvent config.target.database ::
          (replay log u).events,
        (replay log u).state.close.2.disk⟩ := by
  unfold runConnected
  simp only [resetAndReplay, resetDatabase, hne, Bool.false_eq_true, if_false, hreset]
  rfl

/-- The target of a run before the first statement, if the run comes so far. -/
def started (σ : Type) [Engine σ] (config : Config) (disk : Disk) : Except Error (Target σ) :=
  match Target.connect config.target.dataDir config.target.busyTimeoutMs disk with
  | (.error fault, _) => .error fault
  | (.ok (), t) => match Connection.reset config.target.database t with
    | (.error fault, _) => .error fault
    | (.ok (), t) => .ok t

/-- A target that could be started was connected, and its database started over. -/
theorem started_cases (h : started σ config disk = .ok t) :
    ∃ d, disk.makeDirectories config.target.dataDir = (.ok (), d) ∧
      Connection.reset config.target.database (connected σ config d) = (.ok (), t) := by
  unfold started at h
  split at h
  · cases h
  · next u hconnect =>
    obtain ⟨d, hmake, rfl⟩ := connect_eq_ok hconnect
    refine ⟨d, hmake, ?_⟩
    split at h
    · cases h
    · next hreset =>
      cases h
      exact hreset

/-- A run whose target could be started replays the log on it and closes it. -/
theorem run_of_started
    (hlog : config.logFormat.parseFile disk config.replay.logPath = .ok log)
    (hne : log.isEmpty = false) (hstarted : started σ config disk = .ok t) :
    runOn σ config disk =
      ⟨((replay log t).result.map fun report =>
          { report with database := some config.target.database }).bind fun report =>
            (replay log t).state.close.1.map fun _ => report,
        startEvent config.target.database log :: resetEvent config.target.database ::
          (replay log t).events,
        (replay log t).state.close.2.disk⟩ := by
  obtain ⟨d, hmake, hreset⟩ := started_cases hstarted
  rw [run_of_connected hlog hne (connect_of_made hmake), runConnected_of_ok hne hreset]

/-- A run whose target could not be started fails. -/
theorem run_of_not_started
    (hlog : config.logFormat.parseFile disk config.replay.logPath = .ok log)
    (hne : log.isEmpty = false) {fault : Error} (hstarted : started σ config disk = .error fault) :
    (runOn σ config disk).result = .error fault := by
  unfold started at hstarted
  split at hstarted
  · next hconnect =>
    cases hstarted
    rw [run_of_not_connected hlog hne hconnect]
  · next u hconnect =>
    rw [run_of_connected hlog hne hconnect]
    split at hstarted
    · next hreset =>
      cases hstarted
      rw [runConnected_of_error hne hreset]
    · cases hstarted

/-! ## Fixed settings and disks -/

/-- The settings for a database in the directory `data`. -/
def dataConfig (database : String) : Config :=
  { Config.default (.ofString "/home") with target := ⟨.ofString "data", database, 5000⟩ }

/-- The disk with nothing but a log. -/
def logDisk (text : String) : Disk :=
  Disk.initial.place (.ofString "database0.log") (Utf8.ofString text)

end SqlReplay.Replay
