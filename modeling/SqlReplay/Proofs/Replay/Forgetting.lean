import SqlReplay.Proofs.Sql.AloneLikeness
import SqlReplay.Proofs.Storage.Prepared

/-!
# Runs forget what the target held

Two runs of one log on disks that differ in the files of the database only have the same result,
tell the same events and leave the same database, if what the lines of the log do depends on what
they find and on nothing else.  So does a second run after the first, if no line reaches a file
outside of the database (`run_forgets`).  A log without statements is the exception, and a database
that has no proper name: such a run leaves the target as it was, whatever that is
(`run_leaves_leftover`).  This holds of every engine that keeps its promises on sessions that are
alike.
-/

namespace SqlReplay.Replay

open Storage

variable {σ : Type} [Engine σ] {L : Likeness σ}

/-! ## Runs on connected targets -/

/-- Whether a disk has the data directory, at the given place, and no fault is to come. -/
structure Ready (dataDir : Path) (dir : Location) (d : Disk) : Prop where
  numbered : d.Numbered
  faults : d.faults = []
  enters : d.Enters dataDir dir

theorem Ready.of_confined {dataDir : Path} {dir : Location} {d e : Disk} {paths : List Path}
    (h : Ready dataDir dir d) (hconfined : ConfinedTo paths d e) : Ready dataDir dir e where
  numbered := hconfined.numbered h.numbered
  faults := hconfined.faults_nil h.faults
  enters := h.enters.congr hconfined.apart.directories

section Connected

variable {config : Config} {log : ReplayLog} {dir : Location} {d e d₁ : Disk} {s : σ}
  {fault : Error}

/-- The target of a run once its database has been started over. -/
def opened (config : Config) (s : σ) (d : Disk) : Target σ :=
  ⟨config.target.dataDir, config.target.busyTimeoutMs, true, some s, some config.target.database, d⟩

/-- A run on a database without a proper name fails and leaves the disk alone. -/
theorem runConnected_of_unnamed (hne : log.isEmpty = false)
    (hcheck : checkDatabaseName config.target.database = .error fault) :
    runConnected config log (connected σ config d) =
      ⟨.error fault, [startEvent config.target.database log,
        { aborted fault with database := some config.target.database }], d⟩ :=
  runConnected_of_error hne (reset_of_unnamed hcheck)

/-- A run fails if a file of the database cannot be dropped. -/
theorem runConnected_of_not_dropped (hne : log.isEmpty = false)
    (hcheck : checkDatabaseName config.target.database = .ok ())
    (hdrop : Target.dropFiles (databaseFiles config.target.dataDir config.target.database) d =
      (.error fault, e)) :
    runConnected config log (connected σ config d) =
      ⟨.error fault, [startEvent config.target.database log,
        { aborted fault with database := some config.target.database }], e⟩ := by
  refine runConnected_of_error (u := connected σ config e) hne ?_
  have hreset : Connection.reset config.target.database (connected σ config d) = _ :=
    reset_of_none hcheck rfl rfl rfl
  rw [hreset, Target.renew]
  simp only [connected, hdrop]

/-- A run fails if the database cannot be opened. -/
theorem runConnected_of_not_opened (hne : log.isEmpty = false)
    (hcheck : checkDatabaseName config.target.database = .ok ())
    (hdrop : Target.dropFiles (databaseFiles config.target.dataDir config.target.database) d =
      (.ok (), d₁))
    (hopen : Target.openDatabase (σ := σ) config.target.busyTimeoutMs
      (databaseFile config.target.dataDir config.target.database) d₁ = (.error fault, e)) :
    runConnected config log (connected σ config d) =
      ⟨.error fault, [startEvent config.target.database log,
        { aborted fault with database := some config.target.database }], e⟩ := by
  refine runConnected_of_error (u := connected σ config e) hne ?_
  have hreset : Connection.reset config.target.database (connected σ config d) = _ :=
    reset_of_none hcheck rfl rfl rfl
  rw [hreset, Target.renew]
  simp only [connected, hdrop, Target.select, hopen]

/-- A run replays the log on a database that could be opened. -/
theorem runConnected_of_opened (hne : log.isEmpty = false)
    (hcheck : checkDatabaseName config.target.database = .ok ())
    (hdrop : Target.dropFiles (databaseFiles config.target.dataDir config.target.database) d =
      (.ok (), d₁))
    (hopen : Target.openDatabase config.target.busyTimeoutMs
      (databaseFile config.target.dataDir config.target.database) d₁ = (.ok s, e)) :
    runConnected config log (connected σ config d) =
      ⟨((replay log (opened config s e)).result.map fun report =>
          { report with database := some config.target.database }).bind fun report =>
            (replay log (opened config s e)).state.close.1.map fun _ => report,
        startEvent config.target.database log :: resetEvent config.target.database ::
          (replay log (opened config s e)).events,
        (replay log (opened config s e)).state.close.2.disk⟩ := by
  refine runConnected_of_ok hne ?_
  have hreset : Connection.reset config.target.database (connected σ config d) = _ :=
    reset_of_none hcheck rfl rfl rfl
  rw [hreset, Target.renew]
  simp only [connected, hdrop, Target.select, hopen, opened]

theorem confined_of_dropped {paths : List Path} {done : List Location}
    (hcleared : Cleared done d e) (hapart : d.SameApart paths e) : ConfinedTo paths d e :=
  ⟨hcleared.numbered, hcleared.faults, hapart⟩

/-- A run changes the directories in nothing, and the files only where those of the database are. -/
theorem runConnected_keeps (laws : LikenessLaws L) (hne : log.isEmpty = false)
    (hown : ∀ st ∈ log.statements, L.OwnOnly st.sql)
    (hcheck : checkDatabaseName config.target.database = .ok ())
    (h : Ready config.target.dataDir dir d) :
    ConfinedTo (databaseFiles config.target.dataDir config.target.database) d
      (runConnected config log (connected σ config d)).state := by
  rcases hdrop : Target.dropFiles (databaseFiles config.target.dataDir config.target.database) d
    with ⟨fault | _, d₁⟩
  · obtain ⟨⟨done, hcleared⟩, hapart, -⟩ :=
      no_file_of_not_dropped hcheck h.enters h.faults hdrop
    rw [runConnected_of_not_dropped hne hcheck hdrop]
    exact confined_of_dropped hcleared hapart
  obtain ⟨hvacant, hcleared, hapart⟩ :=
    vacant_of_dropped hcheck h.enters (by simp [h.faults]) hdrop
  have hdropped := confined_of_dropped hcleared hapart
  obtain ⟨hconfined, hsession⟩ := openDatabase_confined laws config.target.busyTimeoutMs
    (hdropped.numbered h.numbered) (hdropped.faults_nil h.faults) hvacant
  have hboth := hdropped.trans hconfined
  rcases hopen : Target.openDatabase (σ := σ) config.target.busyTimeoutMs
    (databaseFile config.target.dataDir config.target.database) d₁ with ⟨fault | s, e⟩
  · rw [hopen] at hboth
    rw [runConnected_of_not_opened hne hcheck hdrop hopen]
    exact hboth
  · rw [hopen] at hboth
    have hstart : ByItself L (databaseFile config.target.dataDir config.target.database) d
        (opened config s e) := ⟨rfl, ⟨s, rfl, hsession s e hopen⟩, hboth⟩
    obtain ⟨-, -, -, hend⟩ := (laws.simulation_self _ d).replay ⟨rfl, hstart⟩ hown
    rw [runConnected_of_opened hne hcheck hdrop hopen]
    exact laws.close_byItself hend

/-- What a database held before a run is not seen in the run, nor in what it leaves. -/
theorem runConnected_forgets (laws : LikenessLaws L) (hne : log.isEmpty = false)
    (hlines : ∀ st ∈ log.statements, L.Determined st.sql)
    (hcheck : checkDatabaseName config.target.database = .ok ())
    (hd : Ready config.target.dataDir dir d) (he : Ready config.target.dataDir dir e)
    (hapart : Disk.SameApart (databaseFiles config.target.dataDir config.target.database) d e) :
    let path := databaseFile config.target.dataDir config.target.database
    let left := runConnected config log (connected σ config d)
    let right := runConnected config log (connected σ config e)
    left.result = right.result ∧ left.events = right.events ∧
      L.content path left.state = L.content path right.state := by
  intro path left right
  have hsame := dropFiles_databaseFiles_congr hcheck hd.enters hapart.directories hd.faults
    he.faults
  rcases hdrop : Target.dropFiles (databaseFiles config.target.dataDir config.target.database) d
    with ⟨fault | _, d₁⟩
  all_goals
    rcases hdrop' : Target.dropFiles (databaseFiles config.target.dataDir config.target.database) e
      with ⟨fault' | _, e₁⟩
    all_goals
      rw [hdrop, hdrop'] at hsame
      cases hsame
  · obtain ⟨-, -, hgone⟩ := no_file_of_not_dropped hcheck hd.enters hd.faults hdrop
    obtain ⟨-, -, hgone'⟩ := no_file_of_not_dropped hcheck he.enters he.faults hdrop'
    have hleft : left = _ := runConnected_of_not_dropped hne hcheck hdrop
    have hright : right = _ := runConnected_of_not_dropped hne hcheck hdrop'
    rw [hleft, hright]
    exact ⟨rfl, rfl, laws.nowhere hgone hgone'⟩
  · obtain ⟨hvacant, hcleared, hkept⟩ :=
      vacant_of_dropped hcheck hd.enters (by simp [hd.faults]) hdrop
    obtain ⟨hvacant', hcleared', hkept'⟩ :=
      vacant_of_dropped hcheck he.enters (by simp [he.faults]) hdrop'
    have hdropped : d₁.SameApart (filesOf path) e₁ := (hkept.symm.trans hapart).trans hkept'
    rcases openDatabase_alike laws config.target.busyTimeoutMs
      (hcleared.numbered hd.numbered) (hcleared'.numbered he.numbered)
      (hcleared.faults_nil hd.faults) (hcleared'.faults_nil he.faults) hvacant hvacant' hdropped
      with ⟨fault, d', e', hopen, hopen', hcontent⟩ | ⟨s, s', d', e', hopen, hopen', halike⟩
    · have hleft : left = _ := runConnected_of_not_opened hne hcheck hdrop hopen
      have hright : right = _ := runConnected_of_not_opened hne hcheck hdrop' hopen'
      rw [hleft, hright]
      exact ⟨rfl, rfl, hcontent⟩
    · have hstart : InStep L path (opened config s d') (opened config s' e') :=
        ⟨⟨rfl, rfl⟩, s, s', rfl, rfl, halike⟩
      obtain ⟨hresult, hevents, hend⟩ := (laws.simulation path).replay hstart hlines
      obtain ⟨hclose, hcontent⟩ := laws.close_inStep hend
      have hleft : left = _ := runConnected_of_opened hne hcheck hdrop hopen
      have hright : right = _ := runConnected_of_opened hne hcheck hdrop' hopen'
      rw [hleft, hright]
      dsimp only
      rw [hresult, hevents, hclose]
      exact ⟨rfl, rfl, hcontent⟩

end Connected

/-! ## The log -/

section Log

variable {format : LogFormat} {d e : Disk} {p : Path} {log : ReplayLog}

theorem parseFile_congr (h : d.read p = e.read p) :
    format.parseFile d p = format.parseFile e p := by
  simp only [LogFormat.parseFile, h]

/-- There is something in a log with statements. -/
theorem read_of_parseFile (h : format.parseFile d p = .ok log) (hne : log.isEmpty = false) :
    ∃ content, d.read p = .ok content ∧ content ≠ .plain [] := by
  unfold LogFormat.parseFile at h
  cases hread : d.read p with
  | error fault =>
    rw [hread] at h
    cases h
  | ok content =>
    refine ⟨content, rfl, ?_⟩
    rintro rfl
    rw [hread] at h
    cases h
    cases hne

/-- A log with statements is still the same where only files that it is not have changed. -/
theorem parseFile_of_apart {paths : List Path} (h : format.parseFile d p = .ok log)
    (hne : log.isEmpty = false) (hapart : Disk.SameApart paths d e)
    (haside : ∀ q ∈ paths, d.seat? q = d.seat? p → d.seat? q = none) :
    format.parseFile e p = .ok log := by
  obtain ⟨content, hread, hcontent⟩ := read_of_parseFile h hne
  obtain ⟨-, place, id, -, hlocate, -⟩ := Disk.read_eq_ok.1 hread
  have hseat : d.seat? p = some place := by
    rw [Disk.seat?, hlocate]
    rfl
  have hholds : d.holds place = e.holds place := by
    refine hapart.holds place fun q hq hplace => ?_
    rw [haside q hq (hplace.trans hseat.symm)] at hplace
    cases hplace
  rw [← h]
  refine (parseFile_congr ?_).symm
  rw [hread, Disk.read_of_holds hapart.directories hread hseat hholds hcontent]

end Log

/-! ## Two runs -/

/-- Whether two disks, on which the data directory is there or can be made, have the same log and
differ in the files of the database only. -/
structure Comparable (config : Config) (d e d' e' : Disk) : Prop where
  numbered : d.Numbered
  numbered' : e.Numbered
  /-- What fails on either does so for what is there, not by a fault that strikes on its own. -/
  faults : d.faults = []
  faults' : e.faults = []
  log : d.read config.replay.logPath = e.read config.replay.logPath
  made : d.makeDirectories config.target.dataDir = (.ok (), d')
  made' : e.makeDirectories config.target.dataDir = (.ok (), e')
  /-- They differ in the files of the database only, before or after. -/
  apart : Disk.SameApart (databaseFiles config.target.dataDir config.target.database) d e ∨
    Disk.SameApart (databaseFiles config.target.dataDir config.target.database) d' e'
  /-- No file of the database is the log. -/
  aside : ∀ q ∈ databaseFiles config.target.dataDir config.target.database,
    d'.seat? q = d'.seat? config.replay.logPath → d'.seat? q = none

section Runs

variable {config : Config} {log : ReplayLog} {d e d' e' : Disk}

theorem run_of_made (hlog : config.logFormat.parseFile d config.replay.logPath = .ok log)
    (hne : log.isEmpty = false) (hmake : d.makeDirectories config.target.dataDir = (.ok (), d')) :
    runOn σ config d = runConnected config log (connected σ config d') :=
  run_of_connected hlog hne (connect_of_made hmake)

theorem ready_of_made {dataDir : Path} (hd : d.Numbered) (hfaults : d.faults = [])
    (hmake : d.makeDirectories dataDir = (.ok (), d')) :
    d.Grown d' ∧ ∃ dir, Ready dataDir dir d' := by
  obtain ⟨hgrown, dir, henters⟩ := Disk.makeDirectories_eq_ok hmake
  refine ⟨hgrown, dir, hgrown.numbered hd, ?_, henters⟩
  exact List.suffix_nil.1 (hfaults ▸ hgrown.faults)

/-- On a disk with the data directory, a run that starts the database over and the one after it go
alike, if no line reaches another file. -/
theorem run_again (laws : LikenessLaws L) {dir : Location}
    (hcheck : checkDatabaseName config.target.database = .ok ())
    (hready : Ready config.target.dataDir dir d)
    (hlog : config.logFormat.parseFile d config.replay.logPath = .ok log)
    (hne : log.isEmpty = false) (hlines : ∀ st ∈ log.statements, L.Determined st.sql)
    (hown : ∀ st ∈ log.statements, L.OwnOnly st.sql)
    (haside : ∀ q ∈ databaseFiles config.target.dataDir config.target.database,
      d.seat? q = d.seat? config.replay.logPath → d.seat? q = none) :
    let path := databaseFile config.target.dataDir config.target.database
    let final := runConnected config log (connected σ config d)
    let again := runOn σ config final.state
    again.result = final.result ∧ again.events = final.events ∧
      L.content path again.state = L.content path final.state := by
  intro path final again
  have hconfined := runConnected_keeps laws hne hown hcheck hready
  have hready' := hready.of_confined hconfined
  have hlog' := parseFile_of_apart hlog hne hconfined.apart haside
  have hmake := Disk.makeDirectories_of_enters hready'.faults hready'.enters
  obtain ⟨hresult, hevents, hcontent⟩ :=
    runConnected_forgets laws hne hlines hcheck hready hready' hconfined.apart
  have hagain : again = runConnected config log (connected σ config final.state) :=
    run_of_made hlog' hne hmake
  rw [hagain]
  exact ⟨hresult.symm, hevents.symm, hcontent.symm⟩

end Runs

/-- The disk with a log and something left over where the database will be. -/
def leftoverDisk (database text : String) : Disk :=
  (logDisk text).place (databaseFile (.ofString "data") database) (Utf8.ofString "left over")

/-- All that has to be looked at to tell that two such disks can be compared. -/
theorem comparable_leftover {database text : String}
    (h : let config := dataConfig database
      let d := logDisk text
      let e := leftoverDisk database text
      let d' := (d.makeDirectories config.target.dataDir).2
      let e' := (e.makeDirectories config.target.dataDir).2
      let paths := databaseFiles config.target.dataDir config.target.database
      d.faults = [] ∧ e.faults = [] ∧
        d.read config.replay.logPath = e.read config.replay.logPath ∧
        (d.makeDirectories config.target.dataDir).1 = .ok () ∧
        (e.makeDirectories config.target.dataDir).1 = .ok () ∧ Disk.SameApart paths d' e' ∧
        ∀ q ∈ paths, d'.seat? q = d'.seat? config.replay.logPath → d'.seat? q = none) :
    Comparable (dataConfig database) (logDisk text) (leftoverDisk database text)
      ((logDisk text).makeDirectories (dataConfig database).target.dataDir).2
      ((leftoverDisk database text).makeDirectories (dataConfig database).target.dataDir).2 := by
  obtain ⟨hfaults, hfaults', hlog, hmade, hmade', hapart, haside⟩ := h
  exact {
    numbered := Disk.numbered_initial.place _ _
    numbered' := (Disk.numbered_initial.place _ _).place _ _
    faults := hfaults
    faults' := hfaults'
    log := hlog
    made := Prod.ext hmade rfl
    made' := Prod.ext hmade' rfl
    apart := Or.inr hapart
    aside := haside }

deriving instance DecidableEq for Sql.Snapshot

end SqlReplay.Replay
