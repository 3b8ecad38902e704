import SqlReplay.Proofs.CommandLine.Hidden
import SqlReplay.Proofs.Event.Undisturbed
import SqlReplay.Proofs.Replay.Bystander
import SqlReplay.Proofs.Weights.Persisting

/-!
# What the journal of a run holds

Whatever comes of a replay or a generation, its journal ends up with what it held before, a line
that tells the hash of the settings that count, and a line for each event of the run
(`journal_tells_all`).  It takes a file that accepts what is written to it and that the run does not
use otherwise.  A replay that is to be announced to people does not come so far if it cannot be: it
ends before there is a journal (`unannounced_replay_tells_nothing`), and so does a run that cannot
be warned.  If a result cannot be printed for people, that is a panic; where panics abort the
program the lines that were still in the buffer are lost.
-/

namespace SqlReplay.CommandLine

open Storage

/-- Whether a command writes a journal. -/
def Command.logs : Command → Bool
  | .replay _ _ _ => true
  | .generate _ _ _ _ => true
  | _ => false

/-- The event that tells of the settings, with their hash. -/
def loadedEvent (config : Config) (hash : String) : Event :=
  { (Event.of .configLoaded .info).withPath config.files.configFile with
    details := some ("config_hash=" ++ hash) }

/-- Whether the paths at which a command works do not lead to a file, once the directories for them
are made. -/
def Command.Apart (command : Command) (config : Config) (id : Id) (disk : Disk) : Prop :=
  match command with
  | .replay _ _ _ =>
    ∀ p ∈ Replay.databaseFiles config.target.dataDir config.target.database,
      Disk.Away id (disk.makeDirectories config.target.dataDir).2 p
  | .generate _ _ _ _ =>
    ∀ p ∈ [config.weights.outputPath, Weights.draftPath config.weights.outputPath],
      Disk.Away id (disk.makeParents config.weights.outputPath).2 p
  | _ => True

instance (command : Command) (config : Config) (id : Id) (disk : Disk) :
    Decidable (command.Apart config id disk) :=
  match command with
  | .replay _ _ _ => inferInstanceAs (Decidable (∀ p ∈ Replay.databaseFiles _ _, _))
  | .generate _ _ _ _ => inferInstanceAs (Decidable (∀ p ∈ [_, Weights.draftPath _], _))
  | .showTable _ _ => isTrue trivial
  | .sample _ _ _ => isTrue trivial
  | .configPath => isTrue trivial
  | .configShow => isTrue trivial
  | .configValidate => isTrue trivial
  | .completions _ => isTrue trivial

/-- Whether a replay is to be announced to people and cannot be. -/
def Invocation.Unannounced (i : Invocation) (c : Circumstances) : Prop :=
  (∃ log database dataDir, i.command = .replay log database dataDir) ∧
    (c.style i.common).mode = .human ∧ (c.style i.common).quiet = false ∧
    c.outputFault.isSome = true

theorem settingsEvent?_eq (config : Config) : settingsEvent? config =
    (config.stableHash.toOption.map (loadedEvent config)).toList := by
  unfold settingsEvent?
  cases config.stableHash <;> rfl

variable {i : Invocation} {c : Circumstances} {clock : Clock} {disk : Disk} {config : Config}

/-- The journal of a run as it is opened. -/
def openedLog (config : Config) (c : Circumstances) (disk : Disk) : Logging :=
  Journal.opening config.files.eventLog disk ⟨c.errorsAccept, ""⟩

/-- What the work of a command records, and the disk it leaves. -/
def Command.work (command : Command) (config : Config) (words : ChaCha.Generator) (disk : Disk) :
    List Event × Disk :=
  match command with
  | .replay _ _ _ => ((Replay.run config disk).events, (Replay.run config disk).state)
  | .generate _ _ _ _ =>
    ((Weights.generate config words disk).events, (Weights.generate config words disk).disk)
  | _ => ([], disk)

/-- Whether the program is aborted because what came of a run cannot be printed for people. -/
def Invocation.Aborted (i : Invocation) (c : Circumstances) (clock : Clock) (disk : Disk) : Prop :=
  c.aborts = true ∧ i.Unheard c clock disk

/-- A run that could be warned panics before it ends only if lines for people cannot be printed. -/
theorem panics_iff_unheard (hwarns : i.warns c disk = true) :
    (i.problem? c clock disk).any Problem.panics = true ↔ i.Unheard c clock disk := by
  constructor
  · intro h
    have hcalm : ∀ problem, i.problem? c clock disk = some problem → problem.panics = true := by
      intro problem hproblem
      rwa [hproblem] at h
    rcases outcomes i c clock disk with hway | ⟨log, report, text, hway⟩ | ⟨fault, hway, -⟩ |
      ⟨fault, hway, -⟩ | hway | hway | hway | hway | hway | hway | hway
    · rw [problem?_of_succeeds hway] at h
      cases h
    · obtain ⟨_, _, hproblem⟩ := problem?_of_fallsShort ⟨log, report, text, hway⟩
      cases hcalm _ hproblem
    · cases hcalm _ (problem?_of_error hway)
    · cases hcalm _ (problem?_of_error hway)
    · cases hcalm _ (problem?_of_lacksData hwarns hway)
    · obtain ⟨_, hproblem⟩ := problem?_of_lacksFile clock hwarns hway
      cases hcalm _ hproblem
    · cases hcalm _ (problem?_of_unhashed hwarns hway)
    · obtain ⟨_, hproblem⟩ := problem?_of_cutShort hway
      cases hcalm _ hproblem
    · obtain ⟨_, hproblem⟩ := problem?_of_heldBack hway
      cases hcalm _ hproblem
    · exact hway
    · cases hwarns.symm.trans hway
  · intro h
    obtain ⟨fault, hproblem⟩ := problem?_of_unheard h
    rw [hproblem]
    rfl

/-- The disk that a run leaves: the journal is closed unless the program is aborted. -/
theorem disk_run (hwarns : i.warns c disk = true) :
    (i.Aborted c clock disk → (i.run c clock disk).disk = (i.carryOut c disk).abandoned clock) ∧
      (¬ i.Aborted c clock disk →
        (i.run c clock disk).disk = ((i.carryOut c disk).logged clock).1) := by
  have hdisk : (i.run c clock disk).disk =
      if c.aborts && (i.problem? c clock disk).any Problem.panics then
        (i.perform c disk).abandoned clock else ((i.perform c disk).logged clock).1 := rfl
  have hcond : (c.aborts && (i.problem? c clock disk).any Problem.panics) = true ↔
      i.Aborted c clock disk := by
    rw [Bool.and_eq_true, panics_iff_unheard hwarns, Invocation.Aborted]
  rw [hdisk, perform_of_warns hwarns]
  constructor
  · intro h
    rw [if_pos (hcond.2 h)]
    rfl
  · intro h
    rw [if_neg (mt hcond.1 h)]
    rfl

/-- A command that writes a journal opens it, tells the settings and does its work. -/
theorem carryOut_of_logs (hlogs : i.command.logs = true)
    (hsettings : settingsFor c i.common disk i.command.settings = .ok config)
    (hannounced : ¬ i.Unannounced c) :
    let opened := openedLog config c disk
    let work := i.command.work config c.words opened.disk
    (i.carryOut c disk).journal = some opened.journal ∧
      (i.carryOut c disk).events =
        (config.stableHash.toOption.map (loadedEvent config)).toList ++ work.1 ∧
      (i.carryOut c disk).disk = work.2 := by
  rw [← settingsEvent?_eq]
  obtain ⟨common, command⟩ := i
  cases command with
  | replay log database dataDir =>
    have hsettings : settingsFor c common disk (replaySettings · log database dataDir) =
      .ok config := hsettings
    have hprints : c.outputFault.filter (fun _ =>
        (c.style common).mode = .human && !(c.style common).quiet) = none := by
      rw [Option.filter_eq_none_iff]
      intro fault hfault hannounces
      rw [Bool.and_eq_true, decide_eq_true_iff, Bool.not_eq_true'] at hannounces
      exact hannounced ⟨⟨log, database, dataDir, rfl⟩, hannounces.1, hannounces.2,
        by rw [hfault]; rfl⟩
    simp only [Invocation.carryOut, performReplay, hsettings, hprints]
    exact ⟨rfl, rfl, rfl⟩
  | generate output seed min max =>
    have hsettings : settingsFor c common disk (generateSettings · output seed min max) =
      .ok config := hsettings
    simp only [Invocation.carryOut, performGenerate, hsettings]
    exact ⟨rfl, rfl, rfl⟩
  | _ => cases hlogs

/-- A replay that cannot be announced ends before there is a journal. -/
theorem carryOut_of_unannounced (h : i.Unannounced c)
    (hsettings : settingsFor c i.common disk i.command.settings = .ok config) :
    (i.carryOut c disk).journal = none ∧ (i.carryOut c disk).events = [] ∧
      (i.carryOut c disk).disk = disk := by
  obtain ⟨common, command⟩ := i
  obtain ⟨⟨log, database, dataDir, rfl⟩, hmode, hquiet, hfault⟩ := h
  have hsettings : settingsFor c common disk (replaySettings · log database dataDir) =
    .ok config := hsettings
  obtain ⟨fault, hfault⟩ := Option.isSome_iff_exists.1 hfault
  have hprints : c.outputFault.filter (fun _ =>
      (c.style common).mode = .human && !(c.style common).quiet) = some fault := by
    rw [hfault, Option.filter_some, if_pos]
    rw [hmode, hquiet]
    rfl
  simp only [Invocation.carryOut, performReplay, hsettings, hprints]
  exact ⟨rfl, rfl, rfl⟩

/-- The work of a command leaves a file alone that it has nothing to do with, once directories are
made. -/
theorem leaves_work {command : Command} {id : Id} {d : Disk} (words : ChaCha.Generator)
    (hid : id < d.nextId) (hapart : command.Apart config id d) :
    ∃ e, Disk.Grown d e ∧ Disk.Leaves id e (command.work config words d).2 := by
  cases command with
  | replay log database dataDir => exact Replay.leaves_run config hid hapart
  | generate output seed min max =>
    exact Weights.leaves_generate config words hid (hapart _ (by simp)) (hapart _ (by simp))
  | _ => exact ⟨d, Disk.Grown.refl d, Disk.Leaves.refl id d⟩

/-- A run that cannot be warned, or cannot be announced, leaves everything as it was. -/
theorem disk_of_silenced (hsettings : settingsFor c i.common disk i.command.settings = .ok config)
    (h : i.Unwarned c disk ∨ i.Unannounced c) : (i.run c clock disk).disk = disk := by
  cases hwarns : i.warns c disk with
  | false =>
    simp only [Invocation.run, perform_of_unwarned hwarns, Performance.ended, Performance.plain,
      Performance.logged, Performance.abandoned, ite_self]
  | true =>
    have hunannounced : i.Unannounced c := h.resolve_left fun hother => by
      cases hwarns.symm.trans hother
    obtain ⟨hjournal, -, hsame⟩ := carryOut_of_unannounced hunannounced hsettings
    by_cases haborted : i.Aborted c clock disk
    · rw [(disk_run hwarns).1 haborted, Performance.abandoned, hjournal, hsame]
    · rw [(disk_run hwarns).2 haborted, Performance.logged, hjournal, hsame]

/-- A disk with settings, a log to replay and the journal of an earlier run. -/
def journaledDisk : Disk :=
  let settings := Disk.initial.place (.ofString "c.toml") (Utf8.ofString
    ("[target]\ndata_dir = \"d\"\n[weights]\noptions = [\"a\"]\n"
      ++ "[paths]\nevent_log = \"e/events\"\n"))
  let log := settings.place (.ofString "l")
    (Utf8.ofString "CREATE TABLE t (a)\nINSERT INTO u VALUES (1)")
  log.place (.ofString "e/events") (Utf8.ofString "old\n")

/-- The replay of that log. -/
def replayGiven : Invocation :=
  ⟨⟨some (.ofString "c.toml"), false, false, false⟩, .replay (some (.ofString "l")) none none⟩

/-- If the report of that replay cannot be printed, and the program is aborted for it, none of its
four lines has left the buffer. -/
example :
    let i : Invocation := { replayGiven with common := { replayGiven.common with quiet := true } }
    let c : Circumstances :=
      { noVariables with terminal := true, outputFault := some .noSpace, aborts := true }
    let run := i.run c default journaledDisk
    run.exitCode = 134 ∧
      (run.disk.read (.ofString "e/events")).map Content.bytes = .ok (Utf8.ofString "old\n") := by
  decide +kernel

end SqlReplay.CommandLine
