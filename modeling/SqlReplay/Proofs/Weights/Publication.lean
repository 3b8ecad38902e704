import SqlReplay.Proofs.Storage.Beside
import SqlReplay.Proofs.Storage.Writing
import SqlReplay.Weights.Store

/-!
# Putting a table in place

A table that is persisted can be read at its path, whatever was there before (`persist_eq_ok`).  If
that fails, all that happened was that directories were made and then the draft beside the path was
written, left or removed (`persist_eq_error`); so what can be read at the path is what could be read
there before, but for a file that had the name of the draft as well (`Drafted`).
-/

namespace SqlReplay.Weights

open Storage Disk

/-- Whether a file had the name of the draft.  The disk `e` tells where the draft's path leads. -/
def Drafted (path : Path) (d e : Disk) (id : Id) : Prop :=
  ∃ place, e.seat? (draftPath path) = some place ∧ d.node? place = some (.file id)

theorem slash_not_mem_draft : Path.slash ∉ Utf8.ofString ".tmp" := by decide

theorem draft_ne_nil : Utf8.ofString ".tmp" ≠ [] := by decide

theorem getLast?_append_draft (front : Bytes) :
    (front ++ Utf8.ofString ".tmp").getLast? = some 112 := by
  have hend : (Utf8.ofString ".tmp").getLast? = some 112 := by decide
  rw [List.getLast?_append, hend, Option.some_or]

theorem hasTrailingSlash_draftPath (path : Path) : (draftPath path).hasTrailingSlash = false := by
  rw [Path.hasTrailingSlash, draftPath, Path.withSuffix, getLast?_append_draft]
  rfl

/-- No draft is written to a device. -/
theorem draft_ne_nullDevice {d : Disk} {path : Path} {place : Location}
    (h : d.seat? (draftPath path) = some place) : place ≠ nullDevice := by
  obtain ⟨last, dir, rfl⟩ := name_of_seat?_withSuffix slash_not_mem_draft draft_ne_nil h
  intro heq
  have hlast := congrArg List.getLast? (List.cons.inj heq).1
  rw [getLast?_append_draft] at hlast
  revert hlast
  decide

namespace Table

variable {table : Table} {d e : Disk} {path : Path} {fault : Error}

theorem flatten_pieces (table : Table) : table.pieces.flatten = Utf8.encode table.render := by
  obtain ⟨entries⟩ := table
  induction entries with
  | nil => rfl
  | cons e entries ih =>
    simp only [pieces, render, Utf8.encode, List.flatMap_cons, List.flatten_append,
      List.flatMap_append] at ih ⊢
    rw [ih]
    simp

theorem writeTo_spec (table : Table) (hd : d.Filed) (hslash : path.hasTrailingSlash = false) :
    SameBesides path d (table.writeTo d path).2 ∧
      ((table.writeTo d path).1 = .ok () → ∃ place id,
        (table.writeTo d path).2.locate path = .ok (.file place id) ∧
        (place ≠ nullDevice → (table.writeTo d path).2.Holds id (Utf8.encode table.render))) := by
  rcases createFile_cases hd hslash with ⟨fault, hcreate⟩ | ⟨place, id, e, hcreate, hbesides,
    hlocate, hholds⟩
  · rw [writeTo, hcreate]
    exact ⟨SameBesides.spent path d, nofun⟩
  · have hwrites := Buffered.rewrites_writeAll id table.pieces e
    rw [writeTo, hcreate]
    dsimp only
    cases hwrite : Buffered.writeAll id table.pieces e with
    | mk result f =>
      rw [hwrite] at hwrites
      have hwritten := hbesides.trans (hwrites.sameBesides hlocate)
      cases result with
      | error fault => exact ⟨hwritten, nofun⟩
      | ok _ =>
        have hall := hwritten.trans (SameBesides.spent path f)
        simp only [sync, nextFault_eq]
        cases f.faults.head?.join with
        | some fault => exact ⟨hall, nofun⟩
        | none =>
          refine ⟨hall, fun _ => ⟨place, id, ?_, fun hplace => ?_⟩⟩
          · exact (locate_spent f path).trans (hwrites.locate_file_iff.2 hlocate)
          · have hcontent := Buffered.writeAll_holds (hholds hplace) hwrite
            rwa [List.nil_append, flatten_pieces] at hcontent

theorem sound_writeTo (table : Table) (hd : d.Sound) (path : Path) :
    (table.writeTo d path).2.Sound := by
  have hcreated := hd.createFile path
  unfold writeTo
  generalize d.createFile path = got at hcreated ⊢
  obtain ⟨_ | id, e⟩ := got
  · exact hcreated
  · have hwritten := hcreated.rewrites (Buffered.rewrites_writeAll id table.pieces e)
    dsimp only
    generalize Buffered.writeAll id table.pieces e = got at hwritten ⊢
    obtain ⟨_ | _, f⟩ := got
    · exact hwritten
    · simp only [sync, nextFault_eq]
      cases f.faults.head?.join <;> exact hwritten.spent

/-- Whatever becomes of a table that is persisted, the disk is sound. -/
theorem sound_persist (table : Table) (hd : d.Sound) (path : Path) :
    (table.persist d path).2.Sound := by
  have hpublish : ∀ {e : Disk}, e.Sound → (table.publish e path).2.Sound := by
    intro e he
    have hwritten := sound_writeTo table he (draftPath path)
    unfold publish
    generalize table.writeTo e (draftPath path) = got at hwritten ⊢
    obtain ⟨_ | _, f⟩ := got
    · exact hwritten
    · have hrenamed : (f.rename (draftPath path) path).2.Sound :=
        hwritten.rename fun id hlocate =>
          draft_ne_nullDevice (locate_eq_file_iff.1 hlocate).1 rfl
      dsimp only
      generalize f.rename (draftPath path) path = got at hrenamed ⊢
      obtain ⟨_ | _, g⟩ := got <;> exact hrenamed
  have hparents : (d.makeParents path).2.Sound :=
    makeParents_keeps (fun _ q _ he => he.makeDirectory q) hd
  unfold persist
  generalize d.makeParents path = got at hparents ⊢
  obtain ⟨⟨parent, fault⟩ | _, e⟩ := got
  · exact hparents
  · have hpublished := hpublish hparents
    dsimp only
    generalize table.publish e path = got at hpublished ⊢
    obtain ⟨_ | _, f⟩ := got
    · exact hpublished.removeFile (draftPath path)
    · exact hpublished

theorem publish_eq_ok (hd : d.Filed) (h : table.publish d path = (.ok (), e)) :
    e.read path = .ok (.plain (Utf8.encode table.render)) := by
  have hwritten := (writeTo_spec table hd (hasTrailingSlash_draftPath path)).2
  unfold publish at h
  generalize table.writeTo d (draftPath path) = got at h hwritten
  obtain ⟨_ | _, f⟩ := got
  · cases h
  · obtain ⟨place, id, hlocate, hholds⟩ := hwritten rfl
    have hplace := draft_ne_nullDevice (locate_eq_file_iff.1 hlocate).1
    obtain ⟨file, hfile, -, hcontent⟩ := hholds hplace
    dsimp only at h hlocate hfile
    cases hrename : f.rename (draftPath path) path with
    | mk result g =>
      rw [hrename] at h
      cases result with
      | error fault => cases h
      | ok _ =>
        cases h
        obtain ⟨hslash, -⟩ := rename_eq_ok hrename
        obtain ⟨old, moved, new, hsource, htarget, hfiles⟩ := locate_of_rename hrename
        -- What is renamed is the file that was written.
        rw [hlocate] at hsource
        cases hsource
        exact read_eq_ok.2 ⟨hslash, new, id, file, htarget, (hfiles id).trans hfile, hcontent⟩

theorem publish_eq_error (hd : d.Filed) (h : table.publish d path = (.error fault, e)) :
    SameBesides (draftPath path) d e := by
  obtain ⟨hbesides, -⟩ := writeTo_spec table hd (hasTrailingSlash_draftPath path)
  unfold publish at h
  generalize table.writeTo d (draftPath path) = got at h hbesides
  obtain ⟨_ | _, f⟩ := got
  · cases h
    exact hbesides
  · dsimp only at h
    cases hrename : f.rename (draftPath path) path with
    | mk result g =>
      rw [hrename] at h
      cases result with
      | ok _ => cases h
      | error fault =>
        cases h
        rw [rename_eq_error hrename]
        exact hbesides.trans (SameBesides.spent _ f)

/-- A table that was persisted can be read. -/
theorem persist_eq_ok (hd : d.Filed) (h : table.persist d path = (.ok (), e)) :
    e.read path = .ok (.plain (Utf8.encode table.render)) := by
  have hgrown := makeParents_grown d path
  unfold persist at h
  generalize d.makeParents path = got at h hgrown
  obtain ⟨⟨parent, fault⟩ | _, f⟩ := got
  · cases h
  · dsimp only at h
    cases hpublish : table.publish f path with
    | mk result g =>
      rw [hpublish] at h
      cases result with
      | error fault => cases h
      | ok _ =>
        cases h
        exact publish_eq_ok (hd.grown hgrown) hpublish

/-- A table that could not be persisted leaves directories and maybe a draft. -/
theorem persist_eq_error (hd : d.Filed) (h : table.persist d path = (.error fault, e)) :
    ∃ f, Grown d f ∧ SameBesides (draftPath path) f e := by
  have hgrown := makeParents_grown d path
  unfold persist at h
  generalize d.makeParents path = got at h hgrown
  obtain ⟨⟨parent, fault⟩ | _, f⟩ := got
  · cases h
    exact ⟨e, hgrown, SameBesides.refl _ e⟩
  · refine ⟨f, hgrown, ?_⟩
    dsimp only at h
    cases hpublish : table.publish f path with
    | mk result g =>
      rw [hpublish] at h
      cases result with
      | ok _ => cases h
      | error fault =>
        cases h
        exact (publish_eq_error (hd.grown hgrown) hpublish).trans
          (sameBesides_removeFile g (hasTrailingSlash_draftPath path))

theorem drafted_of_locate {f : Disk} (hgrown : Grown d f) (hdirs : SameDirectories f e)
    {place : Location} {id : Id} (h : f.locate (draftPath path) = .ok (.file place id)) :
    Drafted path d e id := by
  obtain ⟨hseat, hnode⟩ := locate_eq_file_iff.1 h
  exact ⟨place, (seat?_congr hdirs _).symm.trans hseat, hgrown.file_of_node? hnode⟩

/-- What can be read where a table could not be persisted is what could be read before, unless the
file there was the draft as well. -/
theorem read_of_persist_eq_error (hd : d.Filed) (h : table.persist d path = (.error fault, e))
    {content : Content} (hread : d.read path = .ok content) :
    e.read path = .ok content ∨
      ∃ place id, d.locate path = .ok (.file place id) ∧ Drafted path d e id := by
  obtain ⟨f, hgrown, hbesides⟩ := persist_eq_error hd h
  obtain ⟨hslash, place, id, file, hlocate, -, -⟩ := read_eq_ok.1 hread
  by_cases hdraft : ∃ other, f.locate (draftPath path) = .ok (.file other id)
  · obtain ⟨other, hother⟩ := hdraft
    exact .inr ⟨place, id, hlocate, drafted_of_locate hgrown hbesides.directories hother⟩
  · refine .inl ((hbesides.read_iff (fun place hseat => ?_) fun place' id' hlocate' => ?_).2
      (hgrown.read hread))
    · exact seat?_withSuffix_ne slash_not_mem_draft draft_ne_nil hslash hseat
    · rw [hgrown.locate_found hlocate nofun] at hlocate'
      cases hlocate'
      exact not_exists.1 hdraft

/-- A file that stands where a table could not be persisted stood there before, with what it holds
unless it was the draft as well.  If it could not be read before, the path goes back out of a
directory that was missing. -/
theorem read_before_persist_eq_error (hd : d.Sound) (h : table.persist d path = (.error fault, e))
    {content : Content} (hread : e.read path = .ok content) :
    ∃ place id file, e.locate path = .ok (.file place id) ∧ d.node? place = some (.file id) ∧
      d.file? id = some file ∧ (content = file.content ∨ Drafted path d e id) ∧
      (d.read path = .ok file.content ∨
        [Path.dot, Path.dot] ∈ path.components ∧ d.locate path = .error .missing) := by
  obtain ⟨f, hgrown, hbesides⟩ := persist_eq_error hd.filed h
  obtain ⟨hslash, place, id, now, hlocate, hnow, rfl⟩ := read_eq_ok.1 hread
  have hseat : f.seat? path = some place :=
    (seat?_congr hbesides.directories path).trans (locate_eq_file_iff.1 hlocate).1
  have happart : f.seat? (draftPath path) ≠ some place :=
    seat?_withSuffix_ne slash_not_mem_draft draft_ne_nil hslash hseat
  have hmade := (hbesides.locate_file_iff happart).1 hlocate
  have hnode := (locate_eq_file_iff.1 hmade).2
  have hstood := hgrown.file_of_node? hnode
  obtain ⟨file, hfile, -⟩ := hd.filed.file hstood
  refine ⟨place, id, file, hlocate, hstood, hfile, ?_, ?_⟩
  · by_cases hdraft : ∃ other, f.locate (draftPath path) = .ok (.file other id)
    · obtain ⟨other, hother⟩ := hdraft
      exact .inr (drafted_of_locate hgrown hbesides.directories hother)
    · rw [hbesides.file hnode (not_exists.1 hdraft), hgrown.file?, hfile] at hnow
      cases hnow
      exact .inl rfl
  · rcases hgrown.locate_back hd.rooted hmade with hsame | hmissing
    · exact .inl (read_eq_ok.2 ⟨hslash, place, id, file, hsame, hfile, rfl⟩)
    · exact .inr hmissing

end Table

end SqlReplay.Weights
