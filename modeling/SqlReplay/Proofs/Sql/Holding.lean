import SqlReplay.Proofs.Replay.Holdings
import SqlReplay.Proofs.Sql.Acting
import SqlReplay.Proofs.Sql.Closing
import SqlReplay.Proofs.Storage.Beside

/-!
# Files of sessions

Sessions keep the promises of an engine on files (`holdingLaws`).  A database is in one file, with a
journal beside it while there are changes, and a session writes to no database that it attaches; so
the files that a session has to do with are those of the one it was opened on.
-/

namespace SqlReplay.Sql

open Storage Replay

/-- What sessions hold on to, wherever their files are. -/
def fileHoldings : Holdings Session where
  Content := Option (Except Error Database)
  content p d := (d.read p).toOption.map Session.databaseOf
  seen s d := some (s.view d)
  empty := some (.ok .empty)
  own := Session.path
  attached _ := []
  Intact _ _ := True

namespace Session

variable {p q : Path} {s : Session} {d e : Disk}

theorem journal_mem_filesOf (s : Session) : s.journal ∈ filesOf s.path :=
  List.mem_cons_of_mem _ (List.mem_map_of_mem (by decide))

theorem files_eq (s : Session) : fileHoldings.files s = filesOf s.path :=
  Holdings.files_of_databases rfl

theorem content_congr (h : ∀ c, e.read p = .ok c ↔ d.read p = .ok c) :
    fileHoldings.content p e = fileHoldings.content p d := by
  simp only [fileHoldings, Disk.toOption_read_congr h]

/-! ## Opening -/

theorem opening_eq_ok (h : Engine.opening p d = (.ok s, e)) : ∃ id f, d.openFile p = (.ok id, f) ∧
    s = ⟨f.nextId, id, p, true, none, none, [], none⟩ ∧ e = { f with nextId := f.nextId + 1 } := by
  have hopening : Engine.opening (σ := Session) p d = openingAt p d := rfl
  rw [hopening, openingAt, opening] at h
  rcases hopen : d.openFile p with ⟨fault | id, f⟩ <;> rw [hopen] at h <;> cases h
  exact ⟨id, f, rfl, rfl, rfl⟩

theorem touches_opening (p : Path) (d : Disk) :
    Disk.Touches [p] [] d (Engine.opening (σ := Session) p d).2 := by
  have hopened := Disk.touches_openFile d p
  have hopening : Engine.opening (σ := Session) p d = openingAt p d := rfl
  rw [hopening, openingAt, opening]
  generalize d.openFile p = got at hopened
  obtain ⟨fault | id, f⟩ := got
  · exact hopened
  · -- The number that the session gets is no file's.
    have hnext : Disk.Touches [p] [] f { f with nextId := f.nextId + 1 } :=
      ⟨fun hf => ⟨fun hnode => Nat.lt_succ_of_lt (hf.node_lt hnode),
        fun hfile => Nat.lt_succ_of_lt (hf.file_lt hfile)⟩, List.suffix_refl _,
        ⟨rfl, fun _ => Iff.rfl⟩, Nat.le_succ _, fun _ => rfl, fun h _ => h, fun _ _ => rfl⟩
    exact hopened.trans hnext

/-- A session that is opened where no file is finds an empty database. -/
theorem opening_of_lacks (h : d.Lacks p) (hopen : Engine.opening p d = (.ok s, e)) :
    fileHoldings.seen s e = fileHoldings.empty ∧ fileHoldings.content p e = fileHoldings.empty := by
  obtain ⟨id, f, hfile, rfl, rfl⟩ := opening_eq_ok hopen
  obtain ⟨hslash, hnew, place, hlocate⟩ := h.openFile hfile
  have hlocate' : Disk.locate { f with nextId := f.nextId + 1 } p = .ok (.file place id) :=
    (Disk.locate_congr (d := { f with nextId := f.nextId + 1 }) (e := f) (fun _ => rfl) rfl
      p).trans hlocate
  have hnew' : Disk.file? { f with nextId := f.nextId + 1 } id =
      some (.holding (.plain [])) := hnew
  have hread : Disk.read { f with nextId := f.nextId + 1 } p = .ok (.plain []) :=
    Disk.read_eq_ok.2 ⟨hslash, place, id, _, hlocate', hnew', rfl⟩
  constructor
  · simp only [fileHoldings, view, committed, hnew']
    rfl
  · simp only [fileHoldings, hread]
    rfl

/-! ## Closing -/

theorem content_close (hd : d.Numbered) (hsame : SameDatabase d p s.path) :
    fileHoldings.content p (s.close d) = fileHoldings.content p d := by
  refine content_congr fun c => ?_
  by_cases hslash : p.hasTrailingSlash = true
  · simp only [Disk.read_eq_ok, hslash, reduceCtorEq, false_and]
  · rw [Bool.not_eq_true] at hslash
    refine s.touches_close d |>.read_iff hd (fun place hplace j hj => ?_) fun _ _ _ _ => nofun
    rw [List.mem_singleton.1 hj]
    rcases hsame with rfl | hfiles
    · exact Disk.seat?_withSuffix_ne (by decide) (by decide) hslash hplace
    · obtain ⟨-, hslash', place', hplace', hown⟩ := (List.forall₂_cons.1 hfiles).1
      obtain rfl : place' = place := Option.some.inj (hplace'.symm.trans hplace)
      exact Disk.seat?_withSuffix_ne (by decide) (by decide) hslash' hown

/-! ## Beginning -/

theorem runScript_begin (s : Session) (d : Disk) : s.runScript d "BEGIN" =
    if s.autocommit then (.ok (), { s with autocommit := false }, d)
    else (.error (.failed .nestedTransaction), s, d) := by
  rw [runScript_of_forall (.begin .deferred) rfl (fun _ => rfl)]
  simp only [step, begin]
  split <;> rfl

end Session

open Session in
theorem holdingLaws : HoldingLaws fileHoldings where
  opening hopen := by
    obtain ⟨id, f, -, rfl, -⟩ := opening_eq_ok hopen
    exact ⟨rfl, trivial⟩
  opening_empty _ hlacks hopen := opening_of_lacks (hlacks _ (self_mem_filesOf _)) hopen
  opening_touches {p d} _ := (touches_opening p d).mono
    (List.cons_subset_cons p (List.nil_subset _)) (List.nil_subset _)
  wait _ _ _ _ := ⟨trivial, rfl, Disk.Touches.refl _ _ _, fun _ => ⟨rfl, rfl⟩⟩
  begin {s d} _ := by
    rw [perform_eq, runScript_begin]
    split
    · exact ⟨trivial, rfl, Disk.Touches.refl _ _ _, fun _ => ⟨rfl, rfl⟩⟩
    · exact ⟨trivial, rfl, Disk.Touches.refl _ _ _, nofun⟩
  begun {s d s' d'} h := by
    rw [perform_eq, runScript_begin] at h
    split at h <;> cases h
    rfl
  own_perform text s d := (s.stays_runScript d text).path
  own_next batch s d := by
    have hprepare := s.stays_prepareFirst d batch.tokens
    have hnext : Engine.next batch s d = prepareNext batch s d := rfl
    rw [hnext, prepareNext]
    generalize s.prepareFirst d batch.tokens = got at hprepare
    obtain ⟨fault | _ | ⟨operation, rest⟩, s'⟩ := got <;> exact hprepare.path
  own_run statement s d := (s.stays_step d statement).path
  close_touches {s d} _ := by
    rw [files_eq]
    exact (s.touches_close d).mono (List.cons_subset.2 ⟨s.journal_mem_filesOf, List.nil_subset _⟩)
      (List.nil_subset _)
  close_content {s d p q} _ hd hq hsame := by
    obtain rfl : q = s.path := List.mem_singleton.1 hq
    exact content_close hd hsame
  content _ h := content_congr (h _ (self_mem_filesOf _))

end SqlReplay.Sql
