import SqlReplay.Proofs.Storage.Leaving
import SqlReplay.Proofs.Weights.Generating

/-!
# Tables are put in place at once

A table that is persisted touches two names and no others, that of the path and that of the draft
beside it (`persist_keeps`): a file with neither is left alone (`leaves_persist`).  Once it is in
place there is no draft, unless one file had both names (`draft_of_persist_eq_ok`); if it could not
be put in place no draft is left that can be removed (`draft_of_persist_eq_error`).  With what is
read at the path in either case this is all or nothing (`persist_all_or_nothing`).
-/

namespace SqlReplay.Weights

open Storage Disk

/-! ## Files with other names -/

section Leaves

variable {d : Disk} {id : Id} {path : Path}

namespace Table

theorem leaves_writeTo (table : Table) (hid : id < d.nextId) (haway : Away id d path) :
    Leaves id d (table.writeTo d path).2 := by
  have hcreate := leaves_createFile d hid haway
  unfold writeTo
  cases hcreated : d.createFile path with
  | mk result e =>
    rw [hcreated] at hcreate
    cases result with
    | error fault => exact hcreate
    | ok other =>
      have hne : id ≠ other := Ne.symm (createFile_ne hid haway hcreated)
      have hwritten := hcreate.trans ((Buffered.rewrites_writeAll other table.pieces e).leaves hne)
      dsimp only
      generalize Buffered.writeAll other table.pieces e = got at hwritten
      obtain ⟨_ | _, f⟩ := got
      · exact hwritten
      · simp only [sync, nextFault_eq]
        cases f.faults.head?.join <;> exact hwritten.trans (Leaves.spent id f)

theorem leaves_publish (table : Table) (hid : id < d.nextId) (hpath : Away id d path)
    (hdraft : Away id d (draftPath path)) : Leaves id d (table.publish d path).2 := by
  have hwritten := table.leaves_writeTo hid hdraft
  unfold publish
  generalize table.writeTo d (draftPath path) = got at hwritten
  obtain ⟨_ | _, f⟩ := got
  · exact hwritten
  · have hrenamed := hwritten.trans
      (leaves_rename f (hwritten.away hdraft) (hwritten.away hpath))
    dsimp only
    generalize f.rename (draftPath path) path = got at hrenamed
    obtain ⟨_ | _, g⟩ := got <;> exact hrenamed

/-- A file with neither name is left alone, once the directories are made. -/
theorem leaves_persist (table : Table) (hid : id < d.nextId)
    (hpath : Away id (d.makeParents path).2 path)
    (hdraft : Away id (d.makeParents path).2 (draftPath path)) :
    ∃ e, Grown d e ∧ Leaves id e (table.persist d path).2 := by
  have hgrown := makeParents_grown d path
  refine ⟨_, hgrown, ?_⟩
  unfold persist
  generalize d.makeParents path = got at hgrown hpath hdraft
  obtain ⟨⟨parent, fault⟩ | _, e⟩ := got
  · exact Leaves.refl id e
  · have hpublished := table.leaves_publish (hgrown.nextId.symm ▸ hid) hpath hdraft
    dsimp only
    generalize table.publish e path = got at hpublished
    obtain ⟨_ | _, f⟩ := got
    · exact hpublished.trans (leaves_removeFile f (hpublished.away hdraft))
    · exact hpublished

end Table

/-- A generation makes the directories of its table at most, and then leaves a file alone that
neither the path of the table nor that of the draft leads to. -/
theorem leaves_generate {σ : Type} [WordSource σ] (config : Config) (source : σ)
    (hid : id < d.nextId)
    (hpath : Away id (d.makeParents config.weights.outputPath).2 config.weights.outputPath)
    (hdraft : Away id (d.makeParents config.weights.outputPath).2
      (draftPath config.weights.outputPath)) :
    ∃ e, Grown d e ∧ Leaves id e (generate config source d).disk := by
  have hpersist : ∀ table : Table, ∃ e, Grown d e ∧
      Leaves id e (table.persist d config.weights.outputPath).2 :=
    fun table => table.leaves_persist hid hpath hdraft
  cases hresult : (generate config source d).result with
  | ok summary =>
    obtain ⟨catalog, range, e, -, -, hdone, hdisk, -⟩ := generate_eq_ok hresult
    have hleaves := hpersist (seededTable catalog range config.weights.seed source)
    rwa [hdone, ← hdisk] at hleaves
  | error fault =>
    obtain ⟨-, hdisk | ⟨table, hfailed⟩⟩ := generate_eq_error hresult
    · rw [hdisk]
      exact ⟨d, Grown.refl d, Leaves.refl id d⟩
    · have hleaves := hpersist table
      rwa [hfailed] at hleaves

end Leaves

/-! ## The two names -/

namespace Table

variable {table : Table} {d e : Disk} {path : Path} {fault : Error}

/-- Whether one file had the name of the table and that of the draft.  The disk `e` tells where the
paths lead. -/
def BothNames (path : Path) (d e : Disk) : Prop :=
  ∃ place id, e.seat? path = some place ∧ d.node? place = some (.file id) ∧ Drafted path d e id

theorem contains_of_vacant {p : Path} {place : Location} (hseat : d.seat? p = some place)
    (hnode : d.node? place = none) : d.contains p = false := by
  rcases locate_of_seat? hseat with ⟨id, hfile, -⟩ | ⟨dir, name, -, -, hlocate⟩
  · rw [hnode] at hfile
    cases hfile
  · simp only [Disk.contains, Disk.find, hlocate]

/-- What a table in place has touched. -/
theorem names_of_publish_eq_ok (hd : d.Filed) (h : table.publish d path = (.ok (), e)) :
    SameDirectories d e ∧
      (∀ place, d.seat? (draftPath path) ≠ some place → d.seat? path ≠ some place →
        e.node? place = d.node? place) ∧
      (∀ place id, d.node? place = some (.file id) → Away id d (draftPath path) →
        e.file? id = d.file? id) ∧
      (BothNames path d e ∨ e.contains (draftPath path) = false) := by
  obtain ⟨hbesides, -⟩ := writeTo_spec table hd (hasTrailingSlash_draftPath path)
  unfold publish at h
  generalize table.writeTo d (draftPath path) = got at h hbesides
  obtain ⟨_ | _, f⟩ := got
  · cases h
  dsimp only at h hbesides
  cases hrename : f.rename (draftPath path) path with
  | mk result g =>
    rw [hrename] at h
    cases result with
    | error fault => cases h
    | ok _ =>
      cases h
      obtain ⟨hslash, -⟩ := rename_eq_ok hrename
      obtain ⟨old, id, -, hsource, -, hfiles⟩ := locate_of_rename hrename
      have hseat := (locate_eq_file_iff.1 hsource).1
      have happart : ∀ {place}, f.seat? path = some place → d.seat? (draftPath path) ≠ some place :=
        fun hpath => seat?_withSuffix_ne slash_not_mem_draft draft_ne_nil hslash hpath
      obtain ⟨hdirs, hnodes, hboth⟩ := names_of_rename hrename
      have hall := hbesides.directories.trans hdirs
      refine ⟨hall, fun place hdraft hpath => ?_, fun place id hnode haway => ?_, ?_⟩
      · rw [seat?_congr hbesides.directories] at hdraft hpath
        rw [hnodes place hdraft hpath, hbesides.node (by rwa [seat?_congr hbesides.directories])]
      · rw [hfiles, hbesides.file hnode haway]
      · rcases hboth with ⟨old', new, both, hdraft, hpath⟩ | hgone
        · obtain ⟨hnew, hnode⟩ := locate_eq_file_iff.1 hpath
          have hbefore : d.node? new = some (.file both) :=
            (hbesides.node (happart hnew)).symm.trans hnode
          obtain ⟨hold, hdrafted⟩ := locate_eq_file_iff.1 (hbesides.own hdraft hbefore)
          exact .inl ⟨new, both, (seat?_congr hdirs path).symm.trans hnew, hbefore, old',
            (seat?_congr hall _).symm.trans hold, hdrafted⟩
        · refine .inr (contains_of_vacant ((seat?_congr hdirs _).symm.trans hseat) ?_)
          refine hgone old hseat fun hpath => happart hpath ?_
          exact (seat?_congr hbesides.directories _).trans hseat

/-- A table that was persisted leaves no draft, unless one file had both names. -/
theorem draft_of_persist_eq_ok (hd : d.Filed) (h : table.persist d path = (.ok (), e)) :
    BothNames path d e ∨ e.contains (draftPath path) = false := by
  have hgrown := makeParents_grown d path
  unfold persist at h
  generalize d.makeParents path = got at h hgrown
  obtain ⟨⟨parent, fault⟩ | _, f⟩ := got
  · cases h
  · dsimp only at h hgrown
    cases hpublish : table.publish f path with
    | mk result g =>
      rw [hpublish] at h
      cases result with
      | error fault => cases h
      | ok _ =>
        cases h
        obtain ⟨-, -, -, hboth⟩ := names_of_publish_eq_ok (hd.grown hgrown) hpublish
        refine hboth.imp_left fun hnames => ?_
        obtain ⟨place, id, hseat, hnode, draft, hdraft, hdrafted⟩ := hnames
        exact ⟨place, id, hseat, hgrown.file_of_node? hnode, draft, hdraft,
          hgrown.file_of_node? hdrafted⟩

/-- A table that could not be persisted leaves no draft, unless a fault strikes its removal or
already the directories could not be made. -/
theorem draft_of_persist_eq_error (h : table.persist d path = (.error fault, e)) :
    e.Lacks (draftPath path) ∨
      (∃ (f : Disk) (struck : Fault), f.faults.head?.join = some struck ∧
        f.removeFile (draftPath path) = (.error struck, e)) ∨
      ∃ parent refused, d.makeParents path = (.error (parent, refused), e) := by
  unfold persist at h
  rcases hparents : d.makeParents path with ⟨⟨parent, refused⟩ | _, f⟩
  · rw [hparents] at h
    cases h
    exact .inr (.inr ⟨parent, refused, rfl⟩)
  · rw [hparents] at h
    dsimp only at h
    rcases hpublish : table.publish f path with ⟨_ | _, g⟩
    · rw [hpublish] at h
      cases h
      rcases lacks_or_struck g (hasTrailingSlash_draftPath path) with
        hlacks | ⟨struck, hfault, hremove⟩
      · exact .inl hlacks
      · exact .inr (.inl ⟨g, struck, hfault, by rw [hremove]⟩)
    · rw [hpublish] at h
      cases h

/-- Whether nothing that was there is gone or changed but at the path of a table, if `moved`, and at
that of the draft.  A file that had the name of the draft is the draft under all its names. -/
structure Keeps (path : Path) (moved : Bool) (d e : Disk) : Prop where
  directory : ∀ {place}, d.node? place = some .directory → e.node? place = some .directory
  name : ∀ {place id}, d.node? place = some (.file id) → e.seat? (draftPath path) ≠ some place →
    (moved = true → e.seat? path ≠ some place) → e.node? place = some (.file id)
  file : ∀ {place id}, d.node? place = some (.file id) →
    e.file? id = d.file? id ∨ Drafted path d e id

theorem keeps_grown {f : Disk} {moved : Bool} (hgrown : Grown d f) (h : Keeps path moved f e) :
    Keeps path moved d e where
  directory hnode := h.directory (hgrown.keeps _ _ hnode)
  name hnode := h.name (hgrown.keeps _ _ hnode)
  file hnode := by
    rw [← hgrown.file?]
    refine (h.file (hgrown.keeps _ _ hnode)).imp_right fun hdrafted => ?_
    obtain ⟨place, hseat, hdraft⟩ := hdrafted
    exact ⟨place, hseat, hgrown.file_of_node? hdraft⟩

theorem drafted_of_not_away {id : Id} (h : ¬ Away id d (draftPath path))
    (hdirs : SameDirectories d e) : Drafted path d e id := by
  simp only [Away, not_forall, not_not] at h
  obtain ⟨place, hlocate⟩ := h
  exact drafted_of_locate (Grown.refl d) hdirs hlocate

theorem keeps_of_sameBesides (h : SameBesides (draftPath path) d e) : Keeps path false d e where
  directory hnode := (h.directories.node _).1 hnode
  name hnode hdraft _ := by
    rw [← seat?_congr h.directories] at hdraft
    rw [h.node hdraft, hnode]
  file {place id} hnode := by
    by_cases haway : Away id d (draftPath path)
    · exact .inl (h.file hnode haway)
    · exact .inr (drafted_of_not_away haway h.directories)

/-- What a table that is persisted touches, whatever becomes of it. -/
theorem persist_keeps (table : Table) (hd : d.Filed) (path : Path) :
    Keeps path (table.persist d path).1.isOk d (table.persist d path).2 := by
  cases hpersist : table.persist d path with
  | mk result e =>
    cases result with
    | error fault =>
      obtain ⟨f, hgrown, hbesides⟩ := persist_eq_error hd hpersist
      exact keeps_grown hgrown (keeps_of_sameBesides hbesides)
    | ok _ =>
      have hgrown := makeParents_grown d path
      unfold persist at hpersist
      generalize d.makeParents path = got at hpersist hgrown
      obtain ⟨⟨parent, fault⟩ | _, f⟩ := got
      · cases hpersist
      · dsimp only at hpersist hgrown
        cases hpublish : table.publish f path with
        | mk result g =>
          rw [hpublish] at hpersist
          cases result with
          | error fault => cases hpersist
          | ok _ =>
            cases hpersist
            obtain ⟨hdirs, hnodes, hfiles, -⟩ :=
              names_of_publish_eq_ok (hd.grown hgrown) hpublish
            refine keeps_grown hgrown ⟨fun hnode => (hdirs.node _).1 hnode,
              fun {place id} hnode hdraft hpath => ?_, fun {place id} hnode => ?_⟩
            · rw [← seat?_congr hdirs] at hdraft hpath
              rw [hnodes place hdraft (hpath rfl), hnode]
            · by_cases haway : Away id f (draftPath path)
              · exact .inl (hfiles place id hnode haway)
              · exact .inr (drafted_of_not_away haway hdirs)

/-- A table that is persisted is in place whole, with no draft beside it, or else what stood at its
path stands there still; in either case nothing else that was there is gone or changed. A file that
had the name of the draft as well is written to. A path that goes back out of a directory that was
missing leads, once it is made, to what stood there. A draft that was there before stays if the
directories cannot be made. The disk is sound after it as before, so the next table is persisted in
the same way. -/
theorem persist_all_or_nothing (table : Table) {d : Disk} (sound : d.Sound) (path : Path) :
    let run := table.persist d path
    (run.1 = .ok () →
      run.2.read path = .ok (.plain (Utf8.encode table.render)) ∧
        (BothNames path d run.2 ∨ run.2.contains (draftPath path) = false)) ∧
    (∀ fault, run.1 = .error fault →
      (∀ content, d.read path = .ok content → run.2.read path = .ok content ∨
        ∃ place id, d.locate path = .ok (.file place id) ∧ Drafted path d run.2 id) ∧
      (∀ content, run.2.read path = .ok content →
        ∃ place id file, run.2.locate path = .ok (.file place id) ∧
          d.node? place = some (.file id) ∧ d.file? id = some file ∧
          (content = file.content ∨ Drafted path d run.2 id) ∧
          (d.read path = .ok file.content ∨
            [Path.dot, Path.dot] ∈ path.components ∧ d.locate path = .error .missing)) ∧
      (run.2.Lacks (draftPath path) ∨
        (∃ (f : Disk) (struck : Fault), f.faults.head?.join = some struck ∧
          f.removeFile (draftPath path) = (.error struck, run.2)) ∨
        ∃ parent refused, d.makeParents path = (.error (parent, refused), run.2))) ∧
    Keeps path run.1.isOk d run.2 ∧ run.2.Sound := by
  intro run
  refine ⟨fun hok => ?_, fun fault herror => ?_, persist_keeps table sound.filed path,
    table.sound_persist sound path⟩
  · have hpersist : table.persist d path = (.ok (), run.2) := Prod.ext hok rfl
    exact ⟨persist_eq_ok sound.filed hpersist, draft_of_persist_eq_ok sound.filed hpersist⟩
  · have hpersist : table.persist d path = (.error fault, run.2) := Prod.ext herror rfl
    exact ⟨fun _ => read_of_persist_eq_error sound.filed hpersist,
      fun _ => read_before_persist_eq_error sound hpersist, draft_of_persist_eq_error hpersist⟩

/-- A table of one entry. -/
def oneEntry : Table := ⟨[⟨⟨"a", "b"⟩, 42⟩]⟩

/-- A disk with a file at `w.txt`. -/
def oldTable : Disk := Disk.initial.place (.ofString "w.txt") (Utf8.ofString "old")

/-- The table takes the place of the file. If the device is full the file stays. There is no draft
then in either case. -/
theorem persist_all_or_nothing_old :
    let path : Path := .ofString "w.txt"
    let full : Disk := { oldTable with faults := [none, some .noSpace] }
    oldTable.Sound ∧ full.Sound ∧
      (oneEntry.persist oldTable path).1 = .ok () ∧
      (oneEntry.persist oldTable path).2.read path =
        .ok (.plain (Utf8.encode oneEntry.render)) ∧
      (oneEntry.persist oldTable path).2.contains (draftPath path) = false ∧
      (oneEntry.persist full path).1 = .error (.io (draftPath path) .noSpace) ∧
      (oneEntry.persist full path).2.read path = .ok (.plain (Utf8.ofString "old")) ∧
      (oneEntry.persist full path).2.contains (draftPath path) = false := by
  intro path full
  have hsound : oldTable.Sound := Disk.sound_initial.place _ _
  have hfull : full.Sound := ⟨⟨⟨hsound.filed.numbered.node_lt, hsound.filed.numbered.file_lt⟩,
    hsound.filed.file⟩, hsound.rooted.congr fun _ => rfl, hsound.home⟩
  have hok : (oneEntry.persist oldTable path).1 = .ok () := by decide +kernel
  have herror : (oneEntry.persist full path).1 = .error (.io (draftPath path) .noSpace) := by
    decide +kernel
  have hold : full.read path = .ok (.plain (Utf8.ofString "old")) := by decide +kernel
  obtain ⟨hplaced, -⟩ := persist_all_or_nothing oneEntry hsound path
  obtain ⟨-, hfailed, -⟩ := persist_all_or_nothing oneEntry hfull path
  refine ⟨hsound, hfull, hok, (hplaced hok).1, by decide +kernel, herror, ?_, by decide +kernel⟩
  rcases (hfailed _ herror).1 _ hold with hread | ⟨-, id, -, place, hseat, hnode⟩
  · exact hread
  · -- There was no file at the place of the draft.
    have hdraft : (oneEntry.persist full path).2.seat? (draftPath path) =
        some [Utf8.ofString "w.txt.tmp", Utf8.ofString "work"] := by decide +kernel
    have hfree : full.node? [Utf8.ofString "w.txt.tmp", Utf8.ofString "work"] = none := by
      decide +kernel
    rw [hdraft] at hseat
    cases hseat
    rw [hfree] at hnode
    cases hnode

/-- Four ways in which a table that is persisted is not all or nothing. A path that goes back out of
a directory that is missing leads nowhere, and to the file there once the directory was made,
although the draft could not be written. A file that has the name of the draft as well is written
to, although the device was full at first; if it was not, the draft stays, since it is the table. A
draft stays if a fault denies the root. -/
theorem persist_error_touches_file :
    let path : Path := .ofString "w.txt"
    let astray : Path := .ofString "a/../w.txt"
    let root : Path := .ofString "/w.txt"
    let barred := (oldTable.makeDirectories (draftPath path)).2
    let linked := oldTable.setNode [Utf8.ofString "w.txt.tmp", Utf8.ofString "work"] (.file 2)
    let full : Disk := { linked with faults := [none, some .noSpace] }
    let denied : Disk :=
      { Disk.initial.place (draftPath root) (Utf8.ofString "old") with faults := [some .missing] }
    ((oneEntry.persist barred astray).1 = .error (.io (draftPath astray) .isDirectory) ∧
      barred.read astray = .error .missing ∧
      (oneEntry.persist barred astray).2.read astray = .ok (.plain (Utf8.ofString "old"))) ∧
    ((oneEntry.persist full path).1 = .error (.io (draftPath path) .noSpace) ∧
      full.read path = .ok (.plain (Utf8.ofString "old")) ∧
      (oneEntry.persist full path).2.read path = .ok (.plain (Utf8.ofString "a,b:42\n"))) ∧
    ((oneEntry.persist linked path).1 = .ok () ∧
      (oneEntry.persist linked path).2.contains (draftPath path) = true) ∧
    (oneEntry.persist denied root).1 = .error (.io (.ofString "/")
        (.told "failed to create whole tree")) ∧
      (oneEntry.persist denied root).2.contains (draftPath root) = true := by
  decide +kernel

end Table

end SqlReplay.Weights
