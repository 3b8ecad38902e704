import SqlReplay.Proofs.Replay.DatabaseFiles
import SqlReplay.Proofs.Replay.Started

/-!
# Starting a database over

A database is started over in two steps: its files are dropped, and its file is opened in a new
transaction.  If the files could be dropped, nothing stands any more where they would be
(`vacant_of_dropped`); what is elsewhere is as before (`apart_of_cleared`).  So whatever there was
of the database, the engine opens it with no file of it left (`reset_eq_ok`).
-/

namespace SqlReplay.Replay

open Storage

/-- The name of the file of a database. -/
def mainName (database : String) : Name := Utf8.ofString (database ++ ".sqlite3")

/-- The name of the journal of a database. -/
def journalName (database : String) : Name := mainName database ++ Utf8.ofString "-journal"

theorem mainName_mem (database : String) : mainName database ∈ fileNames database :=
  List.mem_cons_self

/-- The places of the files of a database in a directory. -/
def filePlaces (database : String) (dir : Location) : List Location :=
  (fileNames database).map (· :: dir)

/-- A database file and the files that may stand beside it. -/
def filesOf (p : Path) : List Path := p :: sidecarSuffixes.map p.withSuffix

theorem databaseFiles_eq_filesOf (dataDir : Path) (database : String) :
    databaseFiles dataDir database = filesOf (databaseFile dataDir database) := rfl

theorem self_mem_filesOf (p : Path) : p ∈ filesOf p := List.mem_cons_self

/-- Whether nothing is where a path leads, in a directory that is there. -/
structure Vacant (d : Disk) (p : Path) : Prop where
  seat : ∃ place, d.seat? p = some place ∧ d.node? place = none
  slash : p.hasTrailingSlash = false

/-- Whether neither a database file is there nor one of those beside it. -/
def AllVacant (d : Disk) (p : Path) : Prop := ∀ q ∈ filesOf p, Vacant d q

section Places

variable {dataDir : Path} {database : String} {dir place : Location} {d e : Disk}

/-- Dropping some of the files of a database is seen nowhere else. -/
theorem apart_of_cleared (hcheck : checkDatabaseName database = .ok ())
    (henters : d.Enters dataDir dir) {done : List Name} (hdone : done ⊆ fileNames database)
    (hfree : ∀ name ∈ done, refusal? d dataDir dir name = none)
    (hcleared : Cleared (done.map (· :: dir)) d e) :
    Disk.SameApart (databaseFiles dataDir database) d e := by
  refine ⟨hcleared.directories, fun place hplace => ?_⟩
  rw [hcleared.holds, if_neg]
  intro hmem
  obtain ⟨name, hname, rfl⟩ := List.mem_map.1 hmem
  have hrefusal := hfree name hname
  unfold refusal? at hrefusal
  split_ifs at hrefusal with hlong hnode
  refine hplace (dataDir.join ⟨name⟩) ?_
    (Disk.seat?_join henters (entryName_of_mem hcheck (hdone hname)) hlong hnode)
  rw [databaseFiles_eq dataDir hcheck]
  exact List.mem_map.2 ⟨name, hdone hname, rfl⟩

/-- Where the files of a database were dropped, nothing stands. -/
theorem vacant_of_cleared (hcheck : checkDatabaseName database = .ok ())
    (henters : d.Enters dataDir dir) (hcleared : Cleared (filePlaces database dir) d e)
    (hshort : ∀ name ∈ fileNames database, ¬ Disk.tooLong dataDir name) :
    AllVacant e (databaseFile dataDir database) := by
  intro q hq
  rw [← databaseFiles_eq_filesOf, databaseFiles_eq dataDir hcheck] at hq
  obtain ⟨name, hname, rfl⟩ := List.mem_map.1 hq
  have hentry := entryName_of_mem hcheck hname
  have hgone : e.node? (name :: dir) = none := hcleared.gone _ (List.mem_map_of_mem hname)
  refine ⟨⟨name :: dir, ?_, hgone⟩, hentry.hasTrailingSlash_join dataDir⟩
  exact Disk.seat?_join (henters.congr hcleared.directories) hentry (hshort name hname)
    (by simp [hgone])

theorem dropFiles_databaseFiles (hcheck : checkDatabaseName database = .ok ()) :
    Target.dropFiles (databaseFiles dataDir database) d =
      Target.dropFiles ((fileNames database).map fun name => dataDir.join ⟨name⟩) d := by
  rw [databaseFiles_eq dataDir hcheck]

/-- Dropping the files of a database leaves nothing where they would be, and is seen nowhere
else. -/
theorem vacant_of_dropped (hcheck : checkDatabaseName database = .ok ())
    (henters : d.Enters dataDir dir) (hfaults : some Fault.missing ∉ d.faults)
    (hdrop : Target.dropFiles (databaseFiles dataDir database) d = (.ok (), e)) :
    AllVacant e (databaseFile dataDir database) ∧ Cleared (filePlaces database dir) d e ∧
      Disk.SameApart (databaseFiles dataDir database) d e := by
  rw [dropFiles_databaseFiles hcheck] at hdrop
  obtain ⟨hcleared, hshort⟩ := dropFiles_eq_ok henters
    (fun name hname => entryName_of_mem hcheck hname) hfaults hdrop
  have hfree : ∀ name ∈ fileNames database, refusal? d dataDir dir name = none := by
    intro name hname
    have hgone := hcleared.gone _ (List.mem_map_of_mem (f := (· :: dir)) hname)
    rw [refusal?_congr hcleared.directories, refusal?, if_neg (hshort name hname), hgone,
      if_neg (by simp)]
  exact ⟨vacant_of_cleared hcheck henters hcleared hshort, hcleared,
    apart_of_cleared hcheck henters (List.Subset.refl _) hfree hcleared⟩

/-- Whether the files of a database can be dropped depends on the directories alone. -/
theorem dropFiles_databaseFiles_congr (hcheck : checkDatabaseName database = .ok ())
    (henters : d.Enters dataDir dir) (hdirs : Disk.SameDirectories d e) (hd : d.faults = [])
    (he : e.faults = []) :
    (Target.dropFiles (databaseFiles dataDir database) d).1 =
      (Target.dropFiles (databaseFiles dataDir database) e).1 := by
  rw [dropFiles_databaseFiles hcheck, dropFiles_databaseFiles hcheck]
  exact dropFiles_congr henters (fun name hname => entryName_of_mem hcheck hname) hdirs hd he

/-- If the files of a database could not be dropped, though no fault struck, no file is left where
its own would be. -/
theorem no_file_of_not_dropped {fault : Error} (hcheck : checkDatabaseName database = .ok ())
    (henters : d.Enters dataDir dir) (hfaults : d.faults = [])
    (hdrop : Target.dropFiles (databaseFiles dataDir database) d = (.error fault, e)) :
    (∃ done, Cleared done d e) ∧ Disk.SameApart (databaseFiles dataDir database) d e ∧
      ∀ place id, e.locate (databaseFile dataDir database) ≠ .ok (.file place id) := by
  rw [dropFiles_databaseFiles hcheck] at hdrop
  obtain ⟨done, name, hprefix, hcleared, hfree, hrefused⟩ := dropFiles_eq_error henters
    (fun name hname => entryName_of_mem hcheck hname) hfaults hdrop
  have hdone : done ⊆ fileNames database :=
    fun other hother => hprefix.subset (List.mem_append_left _ hother)
  refine ⟨⟨_, hcleared⟩, apart_of_cleared hcheck henters hdone hfree hcleared, ?_⟩
  have hlocate := Disk.locate_join (henters.congr hcleared.directories)
    (entryName_of_mem hcheck (mainName_mem database))
  -- The file of the database is the first to go: it is gone unless it was the one refused.
  have hnone : Disk.tooLong dataDir (mainName database) ∨
      ∀ id, e.node? (mainName database :: dir) ≠ some (.file id) := by
    cases done with
    | nil =>
      obtain rfl : name = mainName database := (List.cons_prefix_cons.1 hprefix).1
      refine or_iff_not_imp_left.2 fun hlong id hnode => ?_
      have hkept := hcleared.rest (mainName database :: dir) List.not_mem_nil
      rw [hnode] at hkept
      exact hrefused (by rw [refusal?, if_neg hlong, ← hkept, if_neg (by simp)])
    | cons first more =>
      obtain rfl : first = mainName database := (List.cons_prefix_cons.1 hprefix).1
      refine .inr fun id hnode => ?_
      rw [hcleared.gone _ List.mem_cons_self] at hnode
      cases hnode
  intro place id hfile
  have hpath : databaseFile dataDir database = dataDir.join ⟨mainName database⟩ := rfl
  rw [hpath, hlocate] at hfile
  by_cases hlong : Disk.tooLong dataDir (mainName database)
  · rw [if_pos hlong] at hfile
    cases hfile
  · rw [if_neg hlong] at hfile
    have hne := hnone.resolve_left hlong
    rcases hnode : e.node? (mainName database :: dir) with _ | _ | other
    · simp only [hnode] at hfile
      cases hfile
    · simp only [hnode] at hfile
      cases hfile
    · exact hne other hnode

end Places

/-! ## Targets -/

section Targets

variable {σ : Type} [Engine σ] {t t' : Target σ} {database : String}

/-- Starting a database over on a target with nothing selected. -/
theorem reset_of_none (hcheck : checkDatabaseName database = .ok ()) (hopen : t.isOpen = true)
    (hhandle : t.handle? = none) (hdatabase : t.database? = none) :
    t.reset database = Target.renew database t := by
  rw [Target.reset_of_admits ⟨hcheck, hopen⟩, Target.deselect_of_none hhandle]
  obtain ⟨dataDir, busyTimeoutMs, isOpen, handle?, database?, disk⟩ := t
  cases hdatabase
  rfl

theorem reset_of_unnamed {fault : Error} (hcheck : checkDatabaseName database = .error fault) :
    t.reset database = (.error fault, t) := by
  rw [Target.reset, hcheck]

/-- A database is renewed by dropping its files and opening its file. -/
theorem renew_eq_ok (h : Target.renew database t = (.ok (), t')) :
    ∃ d s e, Target.dropFiles (databaseFiles t.dataDir database) t.disk = (.ok (), d) ∧
      Target.openDatabase t.busyTimeoutMs (databaseFile t.dataDir database) d = (.ok s, e) ∧
      t' = { t with handle? := some s, database? := some database, disk := e } := by
  unfold Target.renew at h
  rcases hdrop : Target.dropFiles (databaseFiles t.dataDir database) t.disk with ⟨_ | _, d⟩
  · rw [hdrop] at h
    cases h
  · rw [hdrop] at h
    simp only [Target.select] at h
    rcases hopen : Target.openDatabase (σ := σ) t.busyTimeoutMs
      (databaseFile t.dataDir database) d with ⟨_ | s, e⟩
    · rw [hopen] at h
      cases h
    · rw [hopen] at h
      cases h
      exact ⟨d, s, e, rfl, hopen, rfl⟩

/-- A database is opened by opening its file, setting how long to wait and beginning. -/
theorem openDatabase_eq_ok {busyTimeoutMs : UInt64} {p : Path} {d e : Disk} {s : σ}
    (h : Target.openDatabase busyTimeoutMs p d = (.ok s, e)) :
    ∃ (s₁ s₂ : σ) (d₁ d₂ : Disk), Engine.opening p d = (.ok s₁, d₁) ∧
      Engine.wait busyTimeoutMs s₁ d₁ = (.ok (), s₂, d₂) ∧
      Engine.perform "BEGIN" s₂ d₂ = (.ok (), s, e) := by
  unfold Target.openDatabase at h
  rcases hopen : Engine.opening (σ := σ) p d with ⟨_ | s₁, d₁⟩
  · rw [hopen] at h
    cases h
  · rw [hopen] at h
    simp only [Target.enter] at h
    rcases hwait : Engine.wait busyTimeoutMs s₁ d₁ with ⟨_ | _, s₂, d₂⟩
    · rw [hwait] at h
      cases h
    · rw [hwait] at h
      dsimp only at h
      rcases hbegin : Engine.perform "BEGIN" s₂ d₂ with ⟨_ | _, s₃, d₃⟩
      · rw [hbegin] at h
        cases h
      · rw [hbegin] at h
        cases h
        exact ⟨s₁, s₂, d₁, d₂, rfl, hwait, hbegin⟩

end Targets

/-- A target that could be started is open, on a session that was opened where no file of the
database was left, and on a disk that is as before but for these files. -/
theorem started_eq_ok {σ : Type} [Engine σ] {config : Config} {disk : Disk} {t : Target σ}
    (hdisk : disk.Numbered) (hfaults : some Fault.missing ∉ disk.faults)
    (h : started σ config disk = .ok t) :
    ∃ (d e : Disk) (s : σ), d.Numbered ∧
      AllVacant d (databaseFile config.target.dataDir config.target.database) ∧
      Target.openDatabase config.target.busyTimeoutMs
        (databaseFile config.target.dataDir config.target.database) d = (.ok s, e) ∧
      t = ⟨config.target.dataDir, config.target.busyTimeoutMs, true, some s,
        some config.target.database, e⟩ := by
  obtain ⟨made, hmake, hreset⟩ := started_cases h
  obtain ⟨hgrown, dir, henters⟩ := Disk.makeDirectories_eq_ok hmake
  cases hcheck : checkDatabaseName config.target.database with
  | error fault =>
    have hrefused : Connection.reset config.target.database (connected σ config made) = _ :=
      reset_of_unnamed hcheck
    rw [hrefused] at hreset
    cases hreset
  | ok _ =>
    have hrenew : Connection.reset config.target.database (connected σ config made) = _ :=
      reset_of_none hcheck rfl rfl rfl
    obtain ⟨d, s, e, hdrop, hopen, rfl⟩ := renew_eq_ok (hrenew.symm.trans hreset)
    obtain ⟨hvacant, hcleared, -⟩ := vacant_of_dropped hcheck henters
      (fun hmissing => hfaults (hgrown.faults.subset hmissing)) hdrop
    exact ⟨d, e, s, hcleared.numbered (hgrown.numbered hdisk), hvacant, hopen, rfl⟩

end SqlReplay.Replay
