import SqlReplay.Proofs.Replay.Releasing
import SqlReplay.Proofs.Sql.Acting
import SqlReplay.Proofs.Sql.Deeds

/-!
# Files beside a run

A file that none of the paths of a database leads to is left alone by all that a run asks of its
target (`Bystander.used`), to the end (`leaves_run`): names, content and all.
-/

namespace SqlReplay.Replay

open Storage Sql

variable {id : Id} {database : String}

theorem main_mem_databaseFiles (dataDir : Path) (database : String) :
    databaseFile dataDir database ∈ databaseFiles dataDir database := List.mem_cons_self

theorem journal_mem_databaseFiles (dataDir : Path) (database : String) :
    (databaseFile dataDir database).withSuffix "-journal" ∈ databaseFiles dataDir database := by
  simp [databaseFiles, sidecarSuffixes]

namespace FileTarget

/-- Whether a file has nothing to do with a database of a target. -/
structure Bystander (id : Id) (database : String) (t : FileTarget) : Prop where
  numbered : id < t.disk.nextId
  away : ∀ p ∈ databaseFiles t.dataDir database, Disk.Away id t.disk p
  session : ∀ s, t.handle? = some s → s.file ≠ id ∧ s.path = databaseFile t.dataDir database

theorem stays_does_told {s : Session} {d : Disk} {x : Except Sql.Error Unit × Session × Disk}
    (hstays : s.Stays x.2.1) (hdoes : s.Does d x.2.2) :
    s.Stays (Session.told x).2.1 ∧ s.Does d (Session.told x).2.2 := by
  obtain ⟨_ | _, s', e⟩ := x
  · exact ⟨hstays, hdoes⟩
  · exact ⟨hstays, hdoes⟩

/-- A session that runs a line stays on its files, and does to the disk what sessions do. -/
theorem stays_does_runLine (line : String) (s : Session) (d : Disk) :
    s.Stays (Target.runLine line s d).2.1 ∧ s.Does d (Target.runLine line s d).2.2 := by
  have hprepare := s.stays_prepareFirst d (Sql.scan line.toList)
  rw [Session.runLine_eq]
  generalize s.prepareFirst d (Sql.scan line.toList) = got at hprepare
  obtain ⟨fault | _ | ⟨operation, rest⟩, s'⟩ := got
  · exact ⟨hprepare, Session.Does.refl s d⟩
  · exact ⟨hprepare, Session.Does.refl s d⟩
  · dsimp only at hprepare ⊢
    split
    · exact stays_does_told (hprepare.trans (s'.stays_step d operation))
        (hprepare.does (s'.does_step d operation))
    · exact ⟨hprepare.trans (s'.stays_prepareFirst d rest), Session.Does.refl s d⟩

theorem leaves_dropFiles {paths : List Path} {d : Disk} (haway : ∀ p ∈ paths, Disk.Away id d p) :
    Disk.Leaves id d (Target.dropFiles paths d).2 := by
  induction paths generalizing d with
  | nil => exact Disk.Leaves.refl id d
  | cons p rest ih =>
    have hfirst := Disk.leaves_removeFile d (haway p List.mem_cons_self)
    have hrest : ∀ {e}, Disk.Leaves id d e → Disk.Leaves id d (Target.dropFiles rest e).2 :=
      fun he => he.trans (ih fun q hq => he.away (haway q (List.mem_cons_of_mem p hq)))
    unfold Target.dropFiles
    generalize d.removeFile p = got at hfirst
    obtain ⟨fault | _, e⟩ := got
    · dsimp only
      split
      · exact hrest hfirst
      · exact hfirst
    · exact hrest hfirst

/-- To open a database whose path is away from a file leaves the file alone, and gives a session on
another. -/
theorem leaves_openDatabase (busyTimeoutMs : UInt64) {p : Path} {d : Disk} (hid : id < d.nextId)
    (haway : Disk.Away id d p) :
    Disk.Leaves id d (Target.openDatabase (σ := Session) busyTimeoutMs p d).2 ∧
      ∀ s : Session, (Target.openDatabase busyTimeoutMs p d).1 = .ok s →
        s.file ≠ id ∧ s.path = p := by
  have hopened := Disk.leaves_openFile d p hid
  rw [Session.openDatabase_eq, Session.opening]
  rcases hopen : d.openFile p with ⟨fault | file, e⟩ <;> rw [hopen] at hopened
  · exact ⟨hopened, nofun⟩
  · have hnext : Disk.Leaves id e { e with nextId := e.nextId + 1 } :=
      ⟨⟨rfl, fun _ => Iff.rfl⟩, Nat.le_succ e.nextId, fun _ => Iff.rfl, rfl⟩
    refine ⟨hopened.trans hnext, fun s hs => ?_⟩
    cases hs
    exact ⟨Disk.openFile_ne hid haway hopen, rfl⟩

namespace Bystander

variable {t : FileTarget}

/-- What the session does leaves a bystander alone. -/
theorem leaves_of_does (h : t.Bystander id database) {s : Session} {e : Disk}
    (hs : t.handle? = some s) (hdoes : s.Does t.disk e) : Disk.Leaves id t.disk e := by
  obtain ⟨hfile, hpath⟩ := h.session s hs
  refine hdoes.leaves h.numbered hfile ?_
  rw [Session.journal, hpath]
  exact h.away _ (journal_mem_databaseFiles t.dataDir database)

theorem of_leaves (h : t.Bystander id database) {u : FileTarget} (hdir : u.dataDir = t.dataDir)
    (hleaves : Disk.Leaves id t.disk u.disk)
    (hsession : ∀ s, u.handle? = some s →
      s.file ≠ id ∧ s.path = databaseFile t.dataDir database) : u.Bystander id database where
  numbered := hleaves.lt h.numbered
  away p hp := hleaves.away (h.away p (hdir ▸ hp))
  session s hs := hdir ▸ hsession s hs

/-- A session that goes on is still on another file. -/
theorem goes_on (h : t.Bystander id database) {s s' : Session} {e : Disk}
    (hs : t.handle? = some s) (hstays : s.Stays s') (hdoes : s.Does t.disk e) :
    FileTarget.Bystander id database { t with handle? := some s', disk := e } ∧
      Disk.Leaves id t.disk e := by
  have hleaves := h.leaves_of_does hs hdoes
  refine ⟨h.of_leaves rfl hleaves fun s'' hs'' => ?_, hleaves⟩
  cases hs''
  rw [hstays.file, hstays.path]
  exact h.session s hs

theorem execute (h : t.Bystander id database) (line : String) :
    Bystander id database (t.execute line).2 ∧ Disk.Leaves id t.disk (t.execute line).2.disk := by
  rcases t.execute_cases line with hsame | ⟨-, s, hs, hran⟩
  · rw [hsame]
    exact ⟨h, Disk.Leaves.refl id t.disk⟩
  · obtain ⟨hstays, hdoes⟩ := stays_does_runLine line s t.disk
    rw [hran]
    exact h.goes_on hs hstays hdoes

theorem commit (h : t.Bystander id database) :
    Bystander id database t.commit.2 ∧ Disk.Leaves id t.disk t.commit.2.disk := by
  rcases t.commit_cases with hsame | ⟨-, s, hs, hauto, hran⟩
  · rw [hsame]
    exact ⟨h, Disk.Leaves.refl id t.disk⟩
  · rw [hran, Session.perform_commit hauto]
    exact h.goes_on hs (s.stays_commit t.disk) (s.does_commit t.disk)

/-- What closing the session does, if there is one, leaves a bystander alone. -/
theorem leaves_close (h : t.Bystander id database) :
    Disk.Leaves id t.disk (t.handle?.elim t.disk fun s => s.close t.disk) := by
  cases hs : t.handle? with
  | none => exact Disk.Leaves.refl id t.disk
  | some s => exact h.leaves_of_does hs (s.does_close t.disk)

theorem renew (h : t.Bystander id database) (hnone : t.handle? = none) :
    Bystander id database (Target.renew database t).2 ∧
      Disk.Leaves id t.disk (Target.renew database t).2.disk := by
  have hdropped := leaves_dropFiles h.away
  unfold Target.renew
  generalize Target.dropFiles (databaseFiles t.dataDir database) t.disk = got at hdropped
  obtain ⟨_ | _, d⟩ := got
  · exact ⟨h.of_leaves rfl hdropped fun s hs => absurd (hnone.symm.trans hs) nofun, hdropped⟩
  · obtain ⟨hopened, hsession⟩ := leaves_openDatabase t.busyTimeoutMs
      (hdropped.lt h.numbered)
      (hdropped.away (h.away _ (main_mem_databaseFiles t.dataDir database)))
    have hleaves := hdropped.trans hopened
    simp only [Target.select]
    generalize Target.openDatabase (σ := Session) t.busyTimeoutMs (databaseFile t.dataDir database)
      d = got at hleaves hsession
    obtain ⟨_ | s, e⟩ := got
    · exact ⟨h.of_leaves rfl hleaves fun s hs => absurd (hnone.symm.trans hs) nofun, hleaves⟩
    · refine ⟨h.of_leaves rfl hleaves fun s' hs' => ?_, hleaves⟩
      cases hs'
      exact hsession s rfl

theorem reset (h : t.Bystander id database) :
    Bystander id database (t.reset database).2 ∧
      Disk.Leaves id t.disk (t.reset database).2.disk := by
  by_cases hadmits : t.Admits database
  · have hclosed := h.leaves_close
    have hlet : Bystander id database t.deselect.2 := by
      rw [deselect_eq]
      exact h.of_leaves rfl hclosed nofun
    obtain ⟨hrenewed, hleaves⟩ := hlet.renew (Target.handle?_deselect t)
    rw [Target.reset_of_admits hadmits]
    rw [deselect_eq] at hrenewed hleaves ⊢
    exact ⟨hrenewed, hclosed.trans hleaves⟩
  · rw [Target.reset_of_not_admits hadmits]
    exact ⟨h, Disk.Leaves.refl id t.disk⟩

theorem called (h : t.Bystander id database) {c : Call} (hc : c.OfRun database) :
    Bystander id database (Replay.called t c) ∧
      Disk.Leaves id t.disk (Replay.called t c).disk := by
  cases c with
  | execute sql => exact h.execute sql
  | commit => exact h.commit
  | close => exact hc.elim
  | reset name =>
    obtain rfl : name = database := hc
    exact h.reset

/-- Whatever a run asks of its target, a bystander is left alone. -/
theorem used (h : t.Bystander id database) {calls : List Call}
    (hcalls : ∀ c ∈ calls, Call.OfRun database c) :
    Bystander id database (Replay.used t calls) ∧
      Disk.Leaves id t.disk (Replay.used t calls).disk := by
  induction calls generalizing t with
  | nil => exact ⟨h, Disk.Leaves.refl id t.disk⟩
  | cons c rest ih =>
    obtain ⟨hnext, hleaves⟩ := h.called (hcalls c List.mem_cons_self)
    obtain ⟨hlast, hrest⟩ := ih hnext fun c' hc' => hcalls c' (List.mem_cons_of_mem c hc')
    exact ⟨hlast, hleaves.trans hrest⟩

theorem close (h : t.Bystander id database) : Disk.Leaves id t.disk t.close.2.disk := by
  rw [close_eq]
  exact h.leaves_close

end Bystander

end FileTarget

/-- A configured run makes the directory of its target at most, and then leaves alone a file that
none of the paths of its database leads to. -/
theorem leaves_run (config : Config) {disk : Disk} (hid : id < disk.nextId)
    (haway : ∀ p ∈ databaseFiles config.target.dataDir config.target.database,
      Disk.Away id (disk.makeDirectories config.target.dataDir).2 p) :
    ∃ d, Disk.Grown disk d ∧ Disk.Leaves id d (run config disk).state := by
  have hgrown : Disk.Grown disk (disk.makeDirectories config.target.dataDir).2 :=
    Disk.makeDirectoriesWithin_grown _ _ _
  have hnone := Disk.Leaves.refl id disk
  cases hlog : config.logFormat.parseFile disk config.replay.logPath with
  | error fault =>
    refine ⟨disk, Disk.Grown.refl disk, ?_⟩
    simpa only [run, runOn, hlog] using hnone
  | ok log =>
    cases hempty : log.isEmpty with
    | true =>
      refine ⟨disk, Disk.Grown.refl disk, ?_⟩
      rwa [run, runOn_of_empty hlog hempty]
    | false =>
      refine ⟨_, hgrown, ?_⟩
      rcases hmake : disk.makeDirectories config.target.dataDir with ⟨fault | _, d⟩
      · rw [run, run_of_not_connected hlog hempty (connect_of_not_made hmake)]
        exact Disk.Leaves.refl id d
      · rw [hmake] at haway hgrown
        have hbegin : FileTarget.Bystander id config.target.database (connected Session config d) :=
          ⟨hgrown.nextId.symm ▸ hid, haway, fun s hs => absurd hs.symm (Option.some_ne_none s)⟩
        obtain ⟨calls, hcalls, hstate⟩ := runsTo_resetAndReplay config.target.database log
          (connected Session config d)
        obtain ⟨hend, hleaves⟩ := hbegin.used hcalls
        rw [run, run_of_connected hlog hempty (connect_of_made hmake), runConnected, hstate]
        exact hleaves.trans hend.close

end SqlReplay.Replay
