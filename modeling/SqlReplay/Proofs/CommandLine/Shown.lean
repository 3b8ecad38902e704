import SqlReplay.Proofs.CommandLine.ExitCodes
import SqlReplay.Proofs.Config.FileForm

/-!
# Shown settings

What `config show` prints for people is a configuration file with the settings that were loaded
(`shown_settings_load_back`).  Only a variable can give a number that a configuration file cannot
(`Config.hasHugeNumber_iff`): settings with such a number are usable, but are not shown to people.
-/

namespace SqlReplay.CommandLine

open Storage

variable {i : Invocation} {c : Circumstances} {clock : Clock} {disk : Disk} {config : Config}

theorem perform_of_loads (hwarns : i.warns c disk = true) (hcommand : i.command = .configShow)
    (hload : i.Loads c disk config) : i.perform c disk =
      ⟨i.warnings c disk, "", .ok (.settings config), [], none, disk, ⟨c.errorsAccept, ""⟩⟩ := by
  rw [perform_of_warns hwarns]
  obtain ⟨common, command⟩ := i
  cases hcommand
  simp only [Invocation.carryOut, show Config.load _ _ _ = _ from hload]
  rfl

/-- A run that shows settings prints them and tells the problem with that, if there is one. -/
theorem run_of_loads (hwarns : i.warns c disk = true) (hcommand : i.command = .configShow)
    (hload : i.Loads c disk config) {text : String} {problem : Option Problem}
    (hprinted : printed (c.style i.common) c.outputFault clock.elapsedMs (.ok (.settings config)) =
      (text, problem)) :
    i.run c clock disk = ⟨(told c.aborts ⟨c.errorsAccept, ""⟩ problem).1, text,
      i.warnings c disk ++ (told c.aborts ⟨c.errorsAccept, ""⟩ problem).2.text, disk⟩ := by
  rw [Invocation.run, perform_of_loads hwarns hcommand hload, Performance.ended]
  simp only [Performance.logged, Performance.abandoned, hprinted, String.empty_append, ite_self]

theorem warns_iff_of_loads (hcommand : i.command = .configShow) (hload : i.Loads c disk config) :
    i.warns c disk = true ↔ c.environment.isHomeless = true → c.errorsAccept = true := by
  obtain ⟨base, -, hbase, -⟩ := Config.load_eq_ok hload
  exact warns_iff_of_ofSources (by rw [Invocation.questions, hcommand]) hbase

theorem told_exitCode_eq_zero_iff {aborts : Bool} {errors : ErrorStream}
    {problem : Option Problem} : (told aborts errors problem).1 = 0 ↔ problem = none := by
  cases problem with
  | none => exact iff_of_true rfl rfl
  | some problem =>
    have hpanic : panicCode aborts ≠ 0 := panicCode_ne (by decide)
    have hcode : problem.exitCodeIn aborts ≠ 0 := by
      unfold Problem.exitCodeIn
      split
      · exact hpanic
      · cases problem with
        | failed cause =>
          rw [Problem.exitCode]
          split <;> decide
        | _ => exact Nat.succ_ne_zero _
    refine iff_of_false ?_ (Option.some_ne_none problem)
    simp only [told]
    split
    · exact hcode
    · exact hpanic

theorem told_of_accepts (aborts : Bool) (problem : Problem) :
    told aborts ⟨true, ""⟩ (some problem) =
      (problem.exitCodeIn aborts, ⟨true, "srh: " ++ problem.message ++ "\n"⟩) := by
  simp only [told, ErrorStream.put, if_true, String.empty_append]

theorem text_settings_eq_error (hhuman : (c.style i.common).mode = .human)
    {fault : Config.FileFault} (h : config.fileText = .error fault) :
    (Answer.settings config).text (c.style i.common) clock.elapsedMs =
      .error (.unprintableSettings fault) := by
  simp only [Answer.text, Answer.modeIn, hhuman, Answer.lines, h]
  rfl

theorem text_settings_eq_ok (hhuman : (c.style i.common).mode = .human) {text : List Char}
    (h : config.fileText = .ok text) :
    (Answer.settings config).text (c.style i.common) clock.elapsedMs =
      .ok (String.ofList (text ++ ['\n'])) := by
  have hjoin : Answer.join [String.ofList text] = String.ofList (text ++ ['\n']) := by
    rw [← String.toList_inj]
    simp [Answer.join, String.join]
  simp only [Answer.text, Answer.modeIn, hhuman, Answer.lines, h, Except.map, hjoin]

/-- Settings with a number that is too large for a configuration file are not printed. -/
theorem printed_of_hasHugeNumber (hhuman : (c.style i.common).mode = .human)
    (readable : ¬ config.HasUnreadablePath) (hnumber : config.HasHugeNumber) :
    printed (c.style i.common) c.outputFault clock.elapsedMs (.ok (.settings config)) =
      ("", some (.unprintableSettings .number)) := by
  have htext : (Answer.settings config).text (c.style i.common) clock.elapsedMs =
      .error (.unprintableSettings .number) :=
    text_settings_eq_error hhuman (Config.fileText_eq_error_number readable hnumber)
  simp only [printed, htext]

/-- Other settings are printed as a configuration file and a line feed. -/
theorem printed_of_fileText (hhuman : (c.style i.common).mode = .human)
    (hfault : c.outputFault = none) {text : List Char} (h : config.fileText = .ok text) :
    printed (c.style i.common) c.outputFault clock.elapsedMs (.ok (.settings config)) =
      (String.ofList (text ++ ['\n']), none) := by
  simp only [printed, text_settings_eq_ok hhuman h, hfault]
  rfl

/-- Nothing is printed if the output cannot be written. -/
theorem printed_of_outputFault (hhuman : (c.style i.common).mode = .human)
    {fault : Fault} (hfault : c.outputFault = some fault) {text : List Char}
    (h : config.fileText = .ok text) :
    printed (c.style i.common) c.outputFault clock.elapsedMs (.ok (.settings config)) =
      ("", some (.unprintable fault)) := by
  have hne : (String.ofList (text ++ ['\n'])).isEmpty = false := by simp
  simp only [printed, text_settings_eq_ok hhuman h, hfault, Answer.modeIn, hhuman, outputProblem?,
    hne]
  rfl

/-- Settings whose paths are texts are shown to people if the output can be printed, no number is
too large for a configuration file, and where no home directory is known this can be told.  Then
reading what is shown as a configuration file gives the same settings.  A number that is too large
ends the run in 2, and nothing is printed. -/
theorem shown_settings_load_back (clock : Clock) (hcommand : i.command = .configShow)
    (hhuman : (c.style i.common).mode = .human) (hload : i.Loads c disk config)
    (readable : ¬ config.HasUnreadablePath) :
    let run := i.run c clock disk
    (run.exitCode = 0 ↔ c.outputFault = none ∧ ¬ config.HasHugeNumber ∧
      (c.environment.isHomeless = true → c.errorsAccept = true)) ∧
      (run.exitCode = 0 → run.errors = i.warnings c disk ∧
        ∀ home, Config.ofFileText (.default home) run.output.toList = .ok config) ∧
      (config.HasHugeNumber → c.errorsAccept = true → run.exitCode = 2 ∧ run.output = "" ∧
        run.errors = i.warnings c disk ++
          "srh: serialize config: out-of-range value for u64 type\n") := by
  intro run
  rw [← warns_iff_of_loads hcommand hload]
  cases hwarns : i.warns c disk with
  | false =>
    have hcode : run.exitCode = panicCode c.aborts := exitCode_of_unwarned hwarns
    have hpanic : run.exitCode ≠ 0 := hcode ▸ panicCode_ne (by decide)
    refine ⟨iff_of_false hpanic (fun h => nomatch h.2.2), fun h => absurd h hpanic,
      fun _ haccepts => ?_⟩
    rw [accepts_of_unwarned hwarns] at haccepts
    cases haccepts
  | true =>
  by_cases hnumber : config.HasHugeNumber
  · have hrun : run = _ :=
      run_of_loads hwarns hcommand hload (printed_of_hasHugeNumber hhuman readable hnumber)
    rw [hrun]
    refine ⟨iff_of_false ?_ fun h => h.2.1 hnumber, fun h => ?_, fun _ haccepts => ?_⟩
    · rw [told_exitCode_eq_zero_iff]
      exact Option.some_ne_none _
    · cases told_exitCode_eq_zero_iff.1 h
    · rw [haccepts, told_of_accepts]
      exact ⟨rfl, rfl, rfl⟩
  obtain ⟨text, hfile, hread⟩ := Config.ofFileText_fileText readable hnumber
  cases hfault : c.outputFault with
  | none =>
    have hrun : run = _ :=
      run_of_loads hwarns hcommand hload (printed_of_fileText hhuman hfault hfile)
    rw [hrun]
    refine ⟨iff_of_true rfl ⟨rfl, hnumber, rfl⟩, fun _ => ⟨String.append_empty, fun home => ?_⟩,
      fun h => absurd h hnumber⟩
    rw [String.toList_ofList]
    exact hread home
  | some fault =>
    have hrun : run = _ :=
      run_of_loads hwarns hcommand hload (printed_of_outputFault hhuman hfault hfile)
    rw [hrun]
    refine ⟨iff_of_false ?_ fun h => Option.some_ne_none fault h.1, fun h => ?_,
      fun h => absurd h hnumber⟩
    · rw [told_exitCode_eq_zero_iff]
      exact Option.some_ne_none _
    · cases told_exitCode_eq_zero_iff.1 h

/-- Circumstances in which people are told the results, and variables give the seed and a path that
needs both quotes and escapes. -/
def seededBy (seed : String) : Circumstances :=
  ⟨⟨[("HOME", Utf8.ofString "/home"), ("SRH_OUTPUT_FORMAT", Utf8.ofString "human"),
      ("SRH_WEIGHTS_SEED", Utf8.ofString seed),
      ("SRH_REPLAY_LOG_PATH", Utf8.ofString "a'''\"\"\"\n\\\x07")]⟩,
    false, none, true, ChaCha.Generator.ofSeed 0, false⟩

/-- The settings of a file with one option, shown. -/
def showOneOption : Invocation := ⟨⟨some (.ofString "c.toml"), false, false, false⟩, .configShow⟩

/-- What has to be looked at to tell that settings are loaded, that their paths are texts, and which
numbers they have. -/
theorem loads_of_values {timeout : UInt64} {seed : Option UInt64}
    (h : ((Config.load c.environment disk i.common.config).map fun config =>
      ([config.target.dataDir, config.replay.logPath, config.weights.outputPath,
        config.files.configFile, config.files.eventLog].all fun p => p.text?.isSome,
        config.target.busyTimeoutMs, config.weights.seed)) = .ok (true, timeout, seed)) :
    ∃ config, i.Loads c disk config ∧ ¬ config.HasUnreadablePath ∧
      config.target.busyTimeoutMs = timeout ∧ config.weights.seed = seed := by
  obtain ⟨config, hload, hvalues⟩ := map_eq_ok_iff.1 h
  rw [Prod.mk.injEq, List.all_eq_true, Prod.mk.injEq] at hvalues
  refine ⟨config, hload, ?_, hvalues.2⟩
  rintro ⟨p, hp, hnone⟩
  have hsome := hvalues.1 p hp
  rw [hnone] at hsome
  cases hsome

/-- The greatest seed that a configuration file holds is shown, and so is a path that needs both
quotes and escapes. -/
theorem shown_settings_load_back_unruly :
    let c := seededBy "9223372036854775807"
    let run := showOneOption.run c default oneOption
    ∃ config, showOneOption.Loads c oneOption config ∧
      config.weights.seed = some 9223372036854775807 ∧ run.exitCode = 0 ∧
      ∀ home, Config.ofFileText (.default home) run.output.toList = .ok config := by
  intro c run
  obtain ⟨config, hload, hpath, htimeout, hseed⟩ : ∃ config,
      showOneOption.Loads c oneOption config ∧ ¬ config.HasUnreadablePath ∧
        config.target.busyTimeoutMs = 5000 ∧ config.weights.seed = some 9223372036854775807 :=
    loads_of_values (by decide +kernel)
  have hnumber : ¬ config.HasHugeNumber := by
    rintro ⟨n, hn, hlarge⟩
    rw [htimeout, hseed] at hn
    rcases List.mem_cons.1 hn with rfl | hn
    · exact absurd hlarge (by decide)
    · rw [List.mem_singleton.1 hn] at hlarge
      exact absurd hlarge (by decide)
  obtain ⟨hcode, hread, -⟩ :=
    shown_settings_load_back default rfl (by decide +kernel) hload hpath
  have hzero : run.exitCode = 0 := hcode.2 ⟨rfl, hnumber, fun _ => rfl⟩
  exact ⟨config, hload, hseed, hzero, (hread hzero).2⟩

/-- A greater seed can be used if a variable gives it, but then the settings are not shown to
people. -/
theorem huge_seed_not_shown :
    let c := seededBy "9223372036854775808"
    let run := showOneOption.run c default oneOption
    (∃ config, showOneOption.Loads c oneOption config ∧ ¬ config.HasUnreadablePath ∧
      config.weights.seed = some 9223372036854775808) ∧ run.exitCode = 2 ∧ run.output = "" := by
  intro c run
  obtain ⟨config, hload, hpath, -, hseed⟩ : ∃ config,
      showOneOption.Loads c oneOption config ∧ ¬ config.HasUnreadablePath ∧
        config.target.busyTimeoutMs = 5000 ∧ config.weights.seed = some 9223372036854775808 :=
    loads_of_values (by decide +kernel)
  have hended : (run.exitCode, run.output) = (2, "") := by decide +kernel
  rw [Prod.mk.injEq] at hended
  exact ⟨⟨config, hload, hpath, hseed⟩, hended⟩

end SqlReplay.CommandLine
