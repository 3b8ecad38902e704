import SqlReplay.Proofs.CommandLine.ExitCodes
import SqlReplay.Proofs.CommandLine.Rewording
import SqlReplay.Proofs.Config.Overridden

/-!
# Settings that the command line gives

A setting given on the command line hides what the configuration file says of it, once the settings
have been loaded: two runs whose files differ in that setting only come to the same
(`flag_hides_value`).  Settings are checked when they are loaded, before those of the command line
are put in their place, so a value that cannot be used is refused although it would not count
(`overridden_value_shows`).
-/

namespace SqlReplay.CommandLine

open Storage Disk

variable {i : Invocation} {c : Circumstances} {clock : Clock} {s t : Config.Setting} {id : Id}
  {d e disk : Disk} {config config' : Config} {fault : Error}

/-! ## The settings of a command -/

/-- Whether a command line gives a setting itself. -/
def Command.gives : Command → Config.Setting → Bool
  | .replay log _ _, .logPath => log.isSome
  | .replay _ database _, .database => database.isSome
  | .replay _ _ dataDir, .dataDir => dataDir.isSome
  | .generate output _ _ _, .outputPath => output.isSome
  | .generate _ seed _ _, .seed => seed.isSome
  | .generate _ _ min _, .minWeight => min.isSome
  | .generate _ _ _ max, .maxWeight => max.isSome
  | _, _ => false

/-- The settings that count for a command. -/
def Command.settings : Command → Config → Config
  | .replay log database dataDir, config => replaySettings config log database dataDir
  | .generate output seed min max, config => generateSettings config output seed min max
  | _, config => config

/-- A setting that the command line gives counts, whatever the others are. -/
theorem get_settings_of_gives {command : Command} (h : command.gives s = true) :
    s.get (command.settings config') = s.get (command.settings config) := by
  cases command with
  | replay log database dataDir =>
    cases s with
    | logPath =>
      obtain ⟨log, rfl⟩ := Option.isSome_iff_exists.1 h
      rfl
    | database =>
      obtain ⟨database, rfl⟩ := Option.isSome_iff_exists.1 h
      rfl
    | dataDir =>
      obtain ⟨dataDir, rfl⟩ := Option.isSome_iff_exists.1 h
      rfl
    | _ => cases h
  | generate output seed min max =>
    cases s with
    | outputPath =>
      obtain ⟨output, rfl⟩ := Option.isSome_iff_exists.1 h
      rfl
    | seed =>
      obtain ⟨seed, rfl⟩ := Option.isSome_iff_exists.1 h
      rfl
    | minWeight =>
      obtain ⟨min, rfl⟩ := Option.isSome_iff_exists.1 h
      rfl
    | maxWeight =>
      obtain ⟨max, rfl⟩ := Option.isSome_iff_exists.1 h
      rfl
    | _ => cases h
  | _ => cases h

/-- Every setting that counts depends on what it was before, and on nothing else that was. -/
theorem get_settings_congr (command : Command) (h : t.get config' = t.get config) :
    t.get (command.settings config') = t.get (command.settings config) := by
  cases command with
  | replay log database dataDir =>
    cases t with
    | logPath => exact congrArg log.getD h
    | database => exact congrArg (database.map Text.trimmed).getD h
    | dataDir => exact congrArg dataDir.getD h
    | _ => exact h
  | generate output seed min max =>
    cases t with
    | outputPath => exact congrArg output.getD h
    | seed => exact congrArg seed.or h
    | minWeight => exact congrArg min.getD h
    | maxWeight => exact congrArg max.getD h
    | _ => exact h
  | _ => exact h

/-- What counts is the same if no setting was different that the command line does not give. -/
theorem settings_congr {command : Command} (h : command.gives s = true)
    (hfile : config'.files.configFile = config.files.configFile)
    (hget : ∀ t : Config.Setting, t ≠ s → t.get config' = t.get config) :
    command.settings config' = command.settings config := by
  have hkeeps (config : Config) :
      (command.settings config).files.configFile = config.files.configFile := by
    cases command <;> rfl
  refine Config.ext_settings (fun t => ?_) ?_
  · by_cases heq : t = s
    · subst heq
      exact get_settings_of_gives h
    · exact get_settings_congr command (hget t heq)
  · rw [hkeeps, hkeeps, hfile]

/-- A command that gives a setting acts on the settings that count for it. -/
theorem carryOut_of_gives (h : i.command.gives s = true) (c : Circumstances) :
    (∃ log database dataDir, i.command = .replay log database dataDir ∧ ∀ disk,
        i.carryOut c disk = performReplay c i.common i.command.settings disk ⟨c.errorsAccept, ""⟩) ∨
      ∀ disk, i.carryOut c disk =
        performGenerate c i.common i.command.settings disk ⟨c.errorsAccept, ""⟩ := by
  obtain ⟨common, command⟩ := i
  cases command with
  | replay log database dataDir => exact Or.inl ⟨log, database, dataDir, rfl, fun _ => rfl⟩
  | generate output seed min max => exact Or.inr fun _ => rfl
  | _ => cases h

/-- A command that gives a setting loads the others, so it may have to be warned. -/
theorem warns_iff_of_gives {base : Config} (h : i.command.gives s = true)
    (hbase : Config.ofSources c.environment disk i.common.config = .ok base) :
    i.warns c disk = true ↔ c.environment.isHomeless = true → c.errorsAccept = true := by
  refine warns_iff_of_ofSources ?_ hbase
  obtain ⟨common, command⟩ := i
  cases command with
  | replay log database dataDir => rfl
  | generate output seed min max => rfl
  | _ => cases h

/-- The settings that count are the same whichever file is loaded, and if one cannot be loaded both
fail the same. -/
theorem settingsFor_eq (hgives : i.command.gives s = true)
    (hdiffer : Config.DifferIn c.environment i.common.config s id d e)
    (hload : (Config.load c.environment e i.common.config).map (fun _ => ()) =
      (Config.load c.environment d i.common.config).map fun _ => ()) :
    settingsFor c i.common e i.command.settings = settingsFor c i.common d i.command.settings := by
  cases hd : Config.load c.environment d i.common.config with
  | error fault =>
    rw [hd] at hload
    have he := map_eq_error_iff.1 hload
    simp only [settingsFor, hd, he, bind, Except.bind]
  | ok config =>
    rw [hd] at hload
    obtain ⟨config', he, -⟩ := map_eq_ok_iff.1 hload
    obtain ⟨hfile, hget⟩ := hdiffer.load_eq_ok hd he
    simp only [settingsFor, hd, he, bind, Except.bind, settings_congr hgives hfile hget]

/-! ## Settings that cannot be loaded -/

/-- Whether the settings of a run can be loaded. -/
def Invocation.HasSettings (i : Invocation) (c : Circumstances) (disk : Disk) : Prop :=
  ∃ config, i.Loads c disk config

/-- Whether a run is refused: it prints nothing, records nothing and changes nothing. -/
structure Invocation.Refused (i : Invocation) (c : Circumstances) (clock : Clock) (disk : Disk) :
    Prop where
  exitCode : (i.run c clock disk).exitCode =
    if c.errorsAccept then 1 else panicCode c.aborts
  output : (i.run c clock disk).output = ""
  events : (i.perform c disk).events = []
  disk : (i.run c clock disk).disk = disk

theorem hasSettings_iff : i.HasSettings c disk ↔
    (Config.load c.environment disk i.common.config).map (fun _ => ()) = .ok () := by
  constructor
  · rintro ⟨config, hload⟩
    exact map_eq_ok_iff.2 ⟨config, hload, rfl⟩
  · intro h
    obtain ⟨config, hload, -⟩ := map_eq_ok_iff.1 h
    exact ⟨config, hload⟩

theorem exists_load_eq_error (h : ¬ i.HasSettings c disk) :
    ∃ fault, Config.load c.environment disk i.common.config = .error fault := by
  cases hload : Config.load c.environment disk i.common.config with
  | error fault => exact ⟨fault, rfl⟩
  | ok config => exact absurd ⟨config, hload⟩ h

theorem carryOut_of_load_eq_error (hgives : i.command.gives s = true)
    (hload : Config.load c.environment disk i.common.config = .error fault) :
    i.carryOut c disk = .plain (.error (.failed fault)) disk ⟨c.errorsAccept, ""⟩ := by
  have hsettings : settingsFor c i.common disk i.command.settings = .error fault := by
    simp only [settingsFor, hload, bind, Except.bind]
  rcases carryOut_of_gives hgives c with ⟨_, _, _, -, hperform⟩ | hperform
  · simp only [hperform, performReplay, hsettings]
  · simp only [hperform, performGenerate, hsettings]

/-- A run whose settings cannot be loaded does nothing but tell why, and what it is warned of. -/
theorem perform_of_load_eq_error (hgives : i.command.gives s = true)
    (hload : Config.load c.environment disk i.common.config = .error fault) :
    ∃ warned problem, i.perform c disk =
      ⟨warned, "", .error problem, [], none, disk, ⟨c.errorsAccept, ""⟩⟩ ∧
      (problem = .failed fault ∨ i.Unwarned c disk) := by
  cases hwarns : i.warns c disk with
  | true =>
    refine ⟨i.warnings c disk, .failed fault, ?_, Or.inl rfl⟩
    rw [perform_of_warns hwarns, carryOut_of_load_eq_error hgives hload]
    rfl
  | false => exact ⟨"", .unwarned, perform_of_unwarned hwarns, Or.inr hwarns⟩

/-- Where the settings can be read but not loaded, nothing happens. -/
theorem refused_of_ofSources {base : Config} (hgives : i.command.gives s = true)
    (hbase : Config.ofSources c.environment disk i.common.config = .ok base)
    (h : ¬ i.HasSettings c disk) : i.Refused c clock disk := by
  obtain ⟨fault, hload⟩ := exists_load_eq_error h
  obtain ⟨warned, problem, hperform, hproblem⟩ := perform_of_load_eq_error hgives hload
  refine ⟨?_, ?_, ?_, ?_⟩
  · rcases hproblem with rfl | hunwarned
    · have hfails : i.FailsWith c disk fault := congrArg Performance.answer hperform
      exact exitCode_of_rejected ⟨fault, hfails, Config.isInput_of_ofSources hbase hload⟩
    · rw [exitCode_of_unwarned hunwarned, accepts_of_unwarned hunwarned]
      rfl
  · simp only [Invocation.run, hperform]
    rfl
  · rw [hperform]
  · simp only [Invocation.run, hperform, Performance.ended, Performance.logged,
      Performance.abandoned, ite_self]

/-! ## Runs that differ in a hidden setting -/

/-- Whether a file would be the log of a replay, once the journal has been opened. -/
def Invocation.Replays (i : Invocation) (c : Circumstances) (disk : Disk) (id : Id) : Prop :=
  ∃ log database dataDir config place, i.command = .replay log database dataDir ∧
    settingsFor c i.common disk i.command.settings = .ok config ∧
    (Journal.opening config.files.eventLog disk ⟨c.errorsAccept, ""⟩).disk.locate
      config.replay.logPath = .ok (.file place id)

/-- Whether runs on two disks come to the same.  What is not the table that was written, and no
database, may still hold another text in the one file where it did before. -/
structure Invocation.ComesToSame (i : Invocation) (c : Circumstances) (clock : Clock) (id : Id)
    (d e : Disk) : Prop where
  exitCode : (i.run c clock e).exitCode = (i.run c clock d).exitCode
  output : (i.run c clock e).output = (i.run c clock d).output
  events : (i.perform c e).events = (i.perform c d).events
  table : ∀ summary, (i.perform c d).answer = .ok (.generated summary) →
    (i.perform c e).answer = .ok (.generated summary) ∧
      (i.run c clock e).disk.read summary.path = (i.run c clock d).disk.read summary.path
  databases : ∀ path, Sql.snapshot (i.run c clock e).disk path =
    Sql.snapshot (i.run c clock d).disk path
  disk : Disk.Reworded {id} (i.run c clock d).disk (i.run c clock e).disk

theorem carryOut_reworded (hgives : i.command.gives s = true)
    (hdiffer : Config.DifferIn c.environment i.common.config s id d e)
    (hload : (Config.load c.environment e i.common.config).map (fun _ => ()) =
      (Config.load c.environment d i.common.config).map fun _ => ())
    (haway : ¬ i.Replays c d id) : (i.carryOut c d).Reworded {id} (i.carryOut c e) := by
  have hsettings := settingsFor_eq hgives hdiffer hload
  rcases carryOut_of_gives hgives c with ⟨log, database, dataDir, hcommand, hperform⟩ | hperform
  · rw [hperform d, hperform e]
    refine performReplay_reworded hdiffer.reworded hsettings ?_
    rintro config place _ hconfig hlog rfl
    exact haway ⟨log, database, dataDir, config, place, hcommand, hconfig, hlog⟩
  · rw [hperform d, hperform e]
    exact performGenerate_reworded hdiffer.reworded hsettings

/-- Both runs can be warned, or neither, and the commands come out the same. -/
theorem perform_reworded (hgives : i.command.gives s = true)
    (hdiffer : Config.DifferIn c.environment i.common.config s id d e)
    (hload : (Config.load c.environment e i.common.config).map (fun _ => ()) =
      (Config.load c.environment d i.common.config).map fun _ => ())
    (haway : ¬ i.Replays c d id) : (i.perform c d).Reworded {id} (i.perform c e) := by
  obtain ⟨base, base', hbase, hbase'⟩ := hdiffer.read
  have hwarns : i.warns c e = i.warns c d := by
    rw [Bool.eq_iff_iff, warns_iff_of_gives hgives hbase', warns_iff_of_gives hgives hbase]
  cases hd : i.warns c d with
  | true =>
    rw [perform_of_warns hd, perform_of_warns (hwarns.trans hd)]
    obtain ⟨announced, answer, events, journal, errors, hdisk, table⟩ :=
      carryOut_reworded hgives hdiffer hload haway
    exact ⟨announced, answer, events, journal, errors, hdisk, table⟩
  | false =>
    rw [perform_of_unwarned hd, perform_of_unwarned (hwarns.trans hd)]
    exact plain_reworded _ _ hdiffer.reworded

/-- Whether two runs tell the error stream the same, after what each of them is warned of.  Where a
home directory is known that is nothing. -/
def Invocation.TellsSame (i : Invocation) (c : Circumstances) (clock : Clock) (d e : Disk) : Prop :=
  (∃ rest, (i.run c clock d).errors = (i.perform c d).warned ++ rest ∧
    (i.run c clock e).errors = (i.perform c e).warned ++ rest) ∧
  (c.environment.isHomeless = false → (i.run c clock e).errors = (i.run c clock d).errors)

theorem tellsSame_of_rest {rest : String}
    (hd : (i.run c clock d).errors = (i.perform c d).warned ++ rest)
    (he : (i.run c clock e).errors = (i.perform c e).warned ++ rest) :
    i.TellsSame c clock d e := by
  refine ⟨⟨rest, hd, he⟩, fun hhome => ?_⟩
  have hwarned (disk : Disk) : (i.perform c disk).warned = "" := by
    have hquiet : i.warnings c disk = "" := warnings_eq_empty hhome
    have hwarns : i.warns c disk = true := by
      rw [Invocation.warns, hquiet]
      exact Bool.or_true _
    rw [perform_of_warns hwarns]
    exact hquiet
  rw [hd, he, hwarned, hwarned]

/-- Runs whose commands came out the same come to the same, on the error stream too. -/
theorem comesToSame_of_reworded (clock : Clock)
    (h : (i.perform c d).Reworded {id} (i.perform c e)) :
    i.ComesToSame c clock id d e ∧ i.TellsSame c clock d e := by
  obtain ⟨hdisk, herrors⟩ := h.logged_disk h.disk clock
  have hrun (disk : Disk) : i.run c clock disk =
      let p := i.perform c disk
      let result := printed (c.style i.common) c.outputFault clock.elapsedMs p.answer
      let ending := told c.aborts (p.logged clock).2 result.2
      ⟨ending.1, p.announced ++ result.1, p.warned ++ ending.2.text,
        if c.aborts && result.2.any Problem.panics then p.abandoned clock
        else (p.logged clock).1⟩ := rfl
  -- Whether the journal was closed, the disks differ in the same texts as before.
  have hends : ∀ more, Disk.Reworded more (i.perform c d).disk (i.perform c e).disk →
      Disk.Reworded more (i.run c clock d).disk (i.run c clock e).disk := by
    intro more hmore
    simp only [hrun, h.answer]
    split
    · exact h.abandoned_disk hmore clock
    · exact (h.logged_disk hmore clock).1
  have hplaces (path : Path) :
      (i.run c clock d).disk.locate path = (i.perform c d).disk.locate path := by
    simp only [hrun]
    split
    · exact locate_abandoned _ clock path
    · exact locate_logged _ clock path
  refine ⟨⟨?_, ?_, h.events, fun summary hanswer => ⟨h.answer.trans hanswer, ?_⟩, ?_,
    hends _ h.disk⟩, ?_⟩
  · simp only [hrun, h.answer, herrors]
  · simp only [hrun, h.answer, h.announced]
  · exact h.read_table hanswer (hplaces _) hends
  · exact Sql.snapshot_reworded (hends _ h.disk)
  · refine tellsSame_of_rest (congrArg Ended.errors (hrun d)) ?_
    simp only [hrun, h.answer, herrors]

/-- Runs that were both refused come to the same. -/
theorem comesToSame_of_refused (hgives : i.command.gives s = true)
    (hdiffer : Config.DifferIn c.environment i.common.config s id d e)
    (hload : Config.load c.environment d i.common.config = .error fault)
    (hd : i.Refused c clock d) (he : i.Refused c clock e) : i.ComesToSame c clock id d e where
  exitCode := he.exitCode.trans hd.exitCode.symm
  output := he.output.trans hd.output.symm
  events := he.events.trans hd.events.symm
  table summary hanswer := by
    obtain ⟨_, _, hperform, -⟩ := perform_of_load_eq_error hgives hload
    rw [hperform] at hanswer
    cases hanswer
  databases path := by
    rw [hd.disk, he.disk]
    exact Sql.snapshot_reworded hdiffer.reworded path
  disk := by
    rw [hd.disk, he.disk]
    exact hdiffer.reworded

/-- Two runs whose configuration files differ in a setting that the command line gives come to the
same if the settings can be loaded from both files, or from neither, and the file is not the log
that is replayed.  If they cannot be loaded nothing happens; whether they can is the same for both
if the setting is not checked, or a variable gives it.  Only how often it is told that no home
directory is known may differ, as the files may differ in their sections. -/
theorem flag_hides_value (i : Invocation) (c : Circumstances) (clock : Clock) {s : Config.Setting}
    {id : Id} {d e : Disk} (hgives : i.command.gives s = true)
    (hdiffer : Config.DifferIn c.environment i.common.config s id d e) :
    (¬ i.HasSettings c d → i.Refused c clock d) ∧ (¬ i.HasSettings c e → i.Refused c clock e) ∧
      (s.Harmless c.environment → (i.HasSettings c d ↔ i.HasSettings c e)) ∧
      ((i.HasSettings c d ↔ i.HasSettings c e) → ¬ i.Replays c d id →
        i.ComesToSame c clock id d e ∧
          (i.HasSettings c d ∨ s.Harmless c.environment → i.TellsSame c clock d e)) := by
  obtain ⟨base, base', hbase, hbase'⟩ := hdiffer.read
  have hd : ¬ i.HasSettings c d → i.Refused c clock d := refused_of_ofSources hgives hbase
  have he : ¬ i.HasSettings c e → i.Refused c clock e := refused_of_ofSources hgives hbase'
  refine ⟨hd, he, fun hs => ?_, fun hboth haway => ?_⟩
  · rw [hasSettings_iff, hasSettings_iff, hdiffer.load_of_harmless hs]
  have hsame (hload) :=
    comesToSame_of_reworded clock (perform_reworded hgives hdiffer hload haway)
  by_cases hhas : i.HasSettings c d
  · have hload := hasSettings_iff.1 (hboth.1 hhas)
    rw [← hasSettings_iff.1 hhas] at hload
    exact ⟨(hsame hload).1, fun _ => (hsame hload).2⟩
  · obtain ⟨fault, hload⟩ := exists_load_eq_error hhas
    refine ⟨comesToSame_of_refused hgives hdiffer hload (hd hhas)
      (he fun hother => hhas (hboth.2 hother)), fun hor => ?_⟩
    exact (hsame (hdiffer.load_of_harmless (hor.resolve_left hhas))).2

/-- A disk with an empty log and a configuration file. -/
def configured (settings : String) : Disk :=
  (Disk.initial.place (.ofString "l") []).place (.ofString "c.toml") (Utf8.ofString settings)

/-- The disk with another configuration file. -/
def reconfigured (settings other : String) : Disk :=
  (configured settings).modifyFile 3 fun f => { f with content := .plain (Utf8.ofString other) }

/-- Where the configuration file is. -/
def configuredPlace : Location := [Utf8.ofString "c.toml", Utf8.ofString "work"]

/-- Circumstances without variables. -/
def noVariables : Circumstances := ⟨⟨[]⟩, false, none, true, ChaCha.Generator.ofSeed 0, false⟩

/-- Generations whose lower bound is given by the command line, and otherwise by the file. -/
theorem flag_hides_value_bound :
    let i : Invocation :=
      ⟨⟨some (.ofString "c.toml"), true, false, false⟩, .generate none none (some 2) none⟩
    let d := configured "[weights]\nmin_weight = 3\noptions = [\"a\"]\n"
    let e := reconfigured "[weights]\nmin_weight = 3\noptions = [\"a\"]\n"
      "[weights]\nmin_weight = 4\noptions = [\"a\"]\n"
    i.command.gives .minWeight = true ∧
      Config.DifferIn noVariables.environment i.common.config .minWeight 3 d e ∧
      i.HasSettings noVariables d ∧ i.HasSettings noVariables e ∧ ¬ i.Replays noVariables d 3 ∧
      i.ComesToSame noVariables default 3 d e ∧ i.TellsSame noVariables default d e := by
  intro i d e
  have hd : i.HasSettings noVariables d := hasSettings_iff.2 (by decide +kernel)
  have he : i.HasSettings noVariables e := hasSettings_iff.2 (by decide +kernel)
  have haway : ¬ i.Replays noVariables d 3 := by
    rintro ⟨_, _, _, _, _, hcommand, -⟩
    cases hcommand
  have hdiffer : Config.DifferIn noVariables.environment i.common.config .minWeight 3 d e :=
    Config.differIn_of_all configuredPlace rfl (by decide +kernel)
  obtain ⟨-, -, -, hsame⟩ := flag_hides_value i noVariables default rfl hdiffer
  obtain ⟨hsame, herrors⟩ := hsame ⟨fun _ => he, fun _ => hd⟩ haway
  exact ⟨rfl, hdiffer, hd, he, haway, hsame, herrors (Or.inl hd)⟩

/-- A name that is no name of a database shows although the command line gives another.  So does
any value if the file that gives it is the log to be replayed: here a statement is found in it, so
a connection is needed, or none is. -/
theorem overridden_value_shows :
    let common : Common := ⟨some (.ofString "c.toml"), true, false, false⟩
    (let i : Invocation := ⟨common, .replay (some (.ofString "l")) (some "db") none⟩
      let d := configured "[target]\ndatabase = \"a b\"\n[weights]\noptions = [\"a\"]\n"
      let e := reconfigured "[target]\ndatabase = \"a b\"\n[weights]\noptions = [\"a\"]\n"
        "[target]\ndatabase = \"ab\"\n[weights]\noptions = [\"a\"]\n"
      i.command.gives .database = true ∧
        Config.DifferIn noVariables.environment common.config .database 3 d e ∧
        (i.run noVariables default d).exitCode = 1 ∧ (i.run noVariables default e).exitCode = 0) ∧
    (let i : Invocation := ⟨common, .replay (some (.ofString "c.toml")) none none⟩
      let rest := "block_start = 'log_path = \"x'\n[target]\ndata_dir = \"c.toml\"\n"
        ++ "[weights]\noptions = [\"a\"]\n"
      let d := configured ("[replay]\nlog_path = \"x\"\n" ++ rest)
      let e := reconfigured ("[replay]\nlog_path = \"x\"\n" ++ rest)
        ("[replay]\nlog_path = \"y\"\n" ++ rest)
      i.command.gives .logPath = true ∧
        Config.DifferIn noVariables.environment common.config .logPath 3 d e ∧
        (i.run noVariables default d).exitCode = 2 ∧
        (i.run noVariables default e).exitCode = 0) := by
  intro common
  constructor
  · intro i d e
    have hdiffer : Config.DifferIn noVariables.environment common.config .database 3 d e :=
      Config.differIn_of_all configuredPlace rfl (by decide +kernel)
    obtain ⟨base, -, hbase, -⟩ := hdiffer.read
    have hd : ¬ i.HasSettings noVariables d := mt hasSettings_iff.1 (by decide +kernel)
    have hgives : i.command.gives .database = true := rfl
    have hrefused : i.Refused noVariables default d := refused_of_ofSources hgives hbase hd
    have he : i.problem? noVariables default e = none :=
      Option.isNone_iff_eq_none.1 (by decide +kernel)
    exact ⟨hgives, hdiffer, hrefused.exitCode, by rw [exitCode_run, he]⟩
  · intro i rest d e
    have hdiffer : Config.DifferIn noVariables.environment common.config .logPath 3 d e :=
      Config.differIn_of_all configuredPlace rfl (by decide +kernel)
    have hd : (i.problem? noVariables default d).map (Problem.exitCodeIn false) = some 2 := by
      decide +kernel
    obtain ⟨problem, hproblem, hcode⟩ := Option.map_eq_some_iff.1 hd
    have he : i.problem? noVariables default e = none :=
      Option.isNone_iff_eq_none.1 (by decide +kernel)
    exact ⟨rfl, hdiffer, (exitCode_of_problem fun _ => hproblem).trans hcode,
      by rw [exitCode_run, he]⟩

end SqlReplay.CommandLine
