import SqlReplay.Proofs.Replay.Holdings
import SqlReplay.Proofs.Replay.Selection
import SqlReplay.Proofs.Storage.Beside

/-!
# Write-ahead logs

A database engine may put what is committed into a log beside the database, and move it from there
into the database when the last session is closed, as it does in the mode that
`PRAGMA journal_mode = WAL` sets.  Such an engine, reduced to what its files do (`LogSession`),
keeps the promises on files (`LogSession.holdingLaws`).  Yet when another database is started over,
it rewrites the file of the one before and removes a file that is no journal
(`LogSession.reset_moves_log`): that the session before is let go of is seen on its files, if not on
what is committed to them.
-/

namespace SqlReplay.Replay

open Storage

/-- A session that writes what it commits to a log, until it is closed. -/
structure LogSession where
  path : Path
  autocommit : Bool
  /-- What has been added since the last commit. -/
  added : Bytes
deriving Inhabited

namespace LogSession

/-- The path of the log. -/
def log (p : Path) : Path := p.withSuffix "-wal"

/-- The path of the index of the log. -/
def index (p : Path) : Path := p.withSuffix "-shm"

/-- What is in a file, if there is one. -/
def bytesAt (d : Disk) (p : Path) : Bytes := ((d.read p).toOption.map Content.bytes).getD []

/-- What is committed to a database: what is in its file and, after that, what is in its log. -/
def committed (p : Path) (d : Disk) : Bytes := bytesAt d p ++ bytesAt d (log p)

/-- Writes what has been added to the log. -/
def commit (s : LogSession) (d : Disk) : Except EngineFault Unit × LogSession × Disk :=
  match d.openFile (log s.path) with
  | (.error fault, d) => (.error ⟨some .inputOutput, fault.message⟩, s, d)
  | (.ok id, d) =>
    let d := d.modifyFile id fun f => { f with content := .plain (f.content.bytes ++ s.added) }
    (.ok (), { s with autocommit := true, added := [] }, (d.openFile (index s.path)).2)

/-- Moves what is in the log into the database, and removes the log and its index. -/
def close (s : LogSession) (d : Disk) : Disk :=
  match d.locate s.path, d.read s.path with
  | .ok (.file _ id), .ok _ =>
    match d.removeFile (log s.path) with
    | (.error _, d) => d
    | (.ok (), e) =>
      let e := e.modifyFile id fun f => { f with content := .plain (committed s.path d) }
      (e.removeFile (index s.path)).2
  | _, _ => d

instance : Engine LogSession where
  Prepared := String
  Batch := Option String
  opening p d :=
    match d.openFile p with
    | (.error fault, d) => (.error ⟨some .cannotOpen, fault.message⟩, d)
    | (.ok _, d) => (.ok ⟨p, true, []⟩, d)
  wait _ s d := (.ok (), s, d)
  perform text s d :=
    if text = "BEGIN" then
      if s.autocommit then (.ok (), { s with autocommit := false }, d)
      else (.error ⟨some .other, "cannot start a transaction within a transaction"⟩, s, d)
    else s.commit d
  autocommits := autocommit
  batch := some
  next batch s d := (.ok (batch.map fun text => (text, none)), s, d)
  run text s d :=
    let s := { s with added := s.added ++ Utf8.ofString text }
    if s.autocommit then s.commit d else (.ok (), s, d)
  close s d := (.ok (), s.close d)

/-- What these sessions hold on to.  The path of a session leads to no directory. -/
def holdings : Holdings LogSession where
  Content := Bytes
  content := committed
  seen s d := committed s.path d ++ s.added
  empty := []
  own := path
  attached _ := []
  Intact s _ := s.path.hasTrailingSlash = false

variable {p q : Path} {s : LogSession} {d e : Disk}

/-! ## Reading -/

theorem bytesAt_congr (h : ∀ c, e.read p = .ok c ↔ d.read p = .ok c) :
    bytesAt e p = bytesAt d p := by
  rw [bytesAt, bytesAt, Disk.toOption_read_congr h]

theorem bytesAt_of_lacks (h : d.Lacks p) : bytesAt d p = [] := by
  cases hread : d.read p with
  | error fault =>
    rw [bytesAt, hread]
    rfl
  | ok c =>
    obtain ⟨-, place, id, f, hlocate, -⟩ := Disk.read_eq_ok.1 hread
    exact absurd hlocate (h place id)

theorem bytesAt_of_samePlace (h : SamePlace d p q) : bytesAt d p = bytesAt d q := by
  obtain ⟨hp, hq, place, hseat, hseat'⟩ := h
  have hread : ∀ c, d.read p = .ok c ↔ d.read q = .ok c := by
    intro c
    simp only [Disk.read_eq_ok, hp, hq, Disk.locate_eq_file_iff, hseat, hseat']
  rw [bytesAt, bytesAt, Disk.toOption_read_congr hread]

theorem log_mem_filesOf (p : Path) : log p ∈ filesOf p :=
  List.mem_cons_of_mem _ (List.mem_map_of_mem (by decide))

/-- What is committed stays if nothing comes, goes or is written at the file and the log. -/
theorem committed_congr (h : ∀ q ∈ filesOf p, ∀ c, e.read q = .ok c ↔ d.read q = .ok c) :
    committed p e = committed p d := by
  rw [committed, committed, bytesAt_congr (h p (self_mem_filesOf p)),
    bytesAt_congr (h _ (log_mem_filesOf p))]

theorem committed_of_sameDatabase (h : SameDatabase d p q) : committed p d = committed q d := by
  rcases h with rfl | hfiles
  · rfl
  · obtain ⟨hmain, hbeside⟩ := List.forall₂_cons.1 hfiles
    obtain ⟨hlog, -⟩ := List.forall₂_cons.1 hbeside
    exact congrArg₂ (· ++ ·) (bytesAt_of_samePlace hmain) (bytesAt_of_samePlace hlog)

/-! ## Closing -/

theorem seat?_log_ne (hslash : p.hasTrailingSlash = false) {place : Location}
    (h : d.seat? p = some place) : ∀ a ∈ [log p], d.seat? a ≠ some place := by
  intro a ha
  rw [List.mem_singleton.1 ha]
  exact Disk.seat?_withSuffix_ne (by decide) (by decide) hslash h

theorem seat?_index_ne (hslash : p.hasTrailingSlash = false) {place : Location}
    (h : d.seat? p = some place) : ∀ a ∈ [index p], d.seat? a ≠ some place := by
  intro a ha
  rw [List.mem_singleton.1 ha]
  exact Disk.seat?_withSuffix_ne (by decide) (by decide) hslash h

theorem touches_close (hslash : s.path.hasTrailingSlash = false) :
    Disk.Touches (filesOf s.path) (filesOf s.path) d (s.close d) := by
  have hmain : [s.path] ⊆ filesOf s.path := List.cons_subset_cons _ (List.nil_subset _)
  have hlog : [log s.path] ⊆ filesOf s.path :=
    List.cons_subset.2 ⟨log_mem_filesOf s.path, List.nil_subset _⟩
  have hindex : [index s.path] ⊆ filesOf s.path :=
    List.cons_subset.2 ⟨List.mem_cons_of_mem _ (List.mem_map_of_mem (by decide)),
      List.nil_subset _⟩
  have hnone : [] ⊆ filesOf s.path := List.nil_subset _
  have hremoved := (Disk.touches_removeFile d (log s.path)).mono hlog hnone
  unfold close
  split
  · next place id c hlocate hread =>
    have hkept := (Disk.touches_removeFile d (log s.path)).locate_iff
      (fun _ hseat => seat?_log_ne hslash hseat) |>.2 hlocate
    generalize d.removeFile (log s.path) = got at hremoved hkept
    obtain ⟨fault | _, e⟩ := got
    · exact hremoved
    · have hwritten := (Disk.touches_modifyFile hkept fun f =>
        { f with content := .plain (committed s.path d) }).mono hnone hmain
      exact (hremoved.trans hwritten).trans ((Disk.touches_removeFile _ _).mono hindex hnone)
  · exact Disk.Touches.refl _ _ d

/-- What was in the log is in the database after a close. -/
theorem committed_close (hslash : s.path.hasTrailingSlash = false) (hd : d.Numbered) :
    committed s.path (s.close d) = committed s.path d := by
  unfold close
  split
  · next place id c hlocate hread =>
    rcases hremove : d.removeFile (log s.path) with ⟨fault | _, e⟩
    · rcases Disk.removeFile_cases d (log s.path) with ⟨_, hspent, -⟩ | ⟨_, _, _, -, hok⟩
      · rw [hremove] at hspent
        cases hspent
        exact committed_congr fun q _ c => (Disk.Touches.spent [] [] d).read_iff hd
          (fun _ _ _ => nofun) (fun _ _ _ _ => nofun)
      · rw [hremove] at hok
        cases hok
    · have hgone := Disk.lacks_of_removed (d := d) (p := log s.path) (by rw [hremove])
      have htouched := Disk.touches_removeFile d (log s.path)
      rw [hremove] at hgone htouched
      have hkept := (htouched.locate_iff fun _ hseat => seat?_log_ne hslash hseat).2 hlocate
      dsimp only at hgone ⊢
      generalize hf : e.modifyFile id (fun f =>
        { f with content := .plain (committed s.path d) }) = f
      have hnodes : ∀ place, f.node? place = e.node? place := fun place =>
        hf ▸ Disk.node?_modifyFile e id _ place
      have hhome : f.home = e.home := hf ▸ Disk.home_modifyFile e id _
      have hwritten : f.read s.path = .ok (.plain (committed s.path d)) := by
        obtain ⟨-, place', id', file, hlocate', hin, -⟩ := Disk.read_eq_ok.1 hread
        rw [hlocate] at hlocate'
        cases hlocate'
        have hsame := htouched.content (hd.node_lt (Disk.locate_eq_file_iff.1 hlocate).2)
          (fun _ => nofun)
        rw [hin, Option.map_some, Option.map_eq_some_iff] at hsame
        obtain ⟨file', hin', -⟩ := hsame
        refine Disk.read_eq_ok.2 ⟨hslash, place, id, { file' with
          content := .plain (committed s.path d) }, ?_, ?_, rfl⟩
        · rw [Disk.locate_congr hnodes hhome, hkept]
        · rw [← hf, Disk.file?_modifyFile, if_pos rfl, hin']
          rfl
      have hmain : bytesAt (f.removeFile (index s.path)).2 s.path = committed s.path d := by
        have hf' : f.Numbered := hf ▸ (htouched.numbered hd).modifyFile id _
        rw [bytesAt_congr fun c => (Disk.touches_removeFile f (index s.path)).read_iff hf'
          (fun _ hseat => seat?_index_ne hslash hseat) (fun _ _ _ _ => nofun), bytesAt, hwritten]
        rfl
      have hlog : (f.removeFile (index s.path)).2.Lacks (log s.path) := by
        refine Disk.Lacks.removeFile (fun place id hlocate => ?_) _
        rw [Disk.locate_congr hnodes hhome] at hlocate
        exact hgone place id hlocate
      rw [committed, hmain, bytesAt_of_lacks hlog, List.append_nil]
  · rfl

/-! ## Opening -/

theorem opening_eq_ok (h : Engine.opening p d = (.ok s, e)) :
    (∃ id, d.openFile p = (.ok id, e)) ∧ s = ⟨p, true, []⟩ := by
  simp only [Engine.opening] at h
  rcases hopen : d.openFile p with ⟨fault | id, f⟩ <;> rw [hopen] at h <;> cases h
  exact ⟨⟨id, rfl⟩, rfl⟩

theorem committed_opening (hlacks : ∀ q ∈ filesOf p, d.Lacks q) {id : Id}
    (h : d.openFile p = (.ok id, e)) : committed p e = [] := by
  obtain ⟨hslash, hnew, place, hlocate⟩ := (hlacks p (self_mem_filesOf p)).openFile h
  have htouched := Disk.touches_openFile d p
  rw [h] at htouched
  have hread : e.read p = .ok (.plain []) :=
    Disk.read_eq_ok.2 ⟨hslash, place, id, _, hlocate, hnew, rfl⟩
  have hlog : e.Lacks (log p) := by
    intro place id hlocate
    refine hlacks (log p) (log_mem_filesOf p) place id
      ((htouched.locate_iff fun place hseat a ha => ?_).1 hlocate)
    rw [List.mem_singleton.1 ha]
    exact fun hmain => Disk.seat?_withSuffix_ne (by decide) (by decide) hslash hmain hseat
  rw [committed, bytesAt, hread, bytesAt_of_lacks hlog]
  rfl

theorem path_commit (s : LogSession) (d : Disk) : (s.commit d).2.1.path = s.path := by
  unfold commit
  split <;> rfl

theorem holdingLaws : HoldingLaws holdings where
  opening {p d s e} hopen := by
    obtain ⟨⟨id, hfile⟩, rfl⟩ := opening_eq_ok hopen
    exact ⟨rfl, (Disk.openFile_eq_ok hfile).1⟩
  opening_empty {p d s e} _ hlacks hopen := by
    obtain ⟨⟨id, hfile⟩, rfl⟩ := opening_eq_ok hopen
    have hempty := committed_opening hlacks hfile
    exact ⟨by simp only [holdings, hempty, List.append_nil], hempty⟩
  opening_touches {p d} _ := by
    have hmain : [p] ⊆ filesOf p := List.cons_subset_cons p (List.nil_subset _)
    have htouched := (Disk.touches_openFile d p).mono hmain (List.nil_subset (filesOf p))
    simp only [Engine.opening]
    generalize d.openFile p = got at htouched
    obtain ⟨fault | id, e⟩ := got <;> exact htouched
  wait _ _ _ hintact := ⟨hintact, rfl, Disk.Touches.refl _ _ _, fun _ => ⟨rfl, rfl⟩⟩
  begin {s d} hintact := by
    simp only [Engine.perform, if_true]
    split <;> exact ⟨hintact, rfl, Disk.Touches.refl _ _ _, fun _ => ⟨rfl, rfl⟩⟩
  begun {s d s' d'} h := by
    simp only [Engine.perform, if_true] at h
    split at h <;> cases h
    rfl
  own_perform text s d := by
    simp only [Engine.perform]
    split
    · split <;> rfl
    · exact path_commit s d
  own_next _ _ _ := rfl
  own_run text s d := by
    simp only [Engine.run]
    split
    · exact path_commit _ d
    · rfl
  close_touches hintact := by
    rw [Holdings.files_of_databases rfl]
    exact touches_close hintact
  close_content {s d p q} hintact hd hq hsame := by
    obtain rfl : q = s.path := List.mem_singleton.1 hq
    have hdirs := (touches_close (d := d) hintact).directories
    calc committed p (s.close d) = committed s.path (s.close d) :=
          committed_of_sameDatabase (hsame.congr hdirs)
      _ = committed s.path d := committed_close hintact hd
      _ = committed p d := (committed_of_sameDatabase hsame).symm
  content _ h := committed_congr h

end LogSession

end SqlReplay.Replay
