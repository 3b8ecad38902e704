import SqlReplay.Proofs.Storage.Rewording
import SqlReplay.Proofs.Storage.Writing
import SqlReplay.Weights.Generation

/-!
# Tables replace texts

A table is written without a look at what was there.  On disks that are the same but for some texts
the same comes of it, and the table that was written is the same on both
(`Table.persist_reworded`).
-/

namespace SqlReplay.Weights

open Storage Disk

variable {ids : Set Id} {d e : Disk}

theorem locate_of_createFile {p : Path} {id : Id} (h : d.createFile p = (.ok id, e)) :
    ∃ place, e.locate p = .ok (.file place id) := by
  unfold Disk.createFile at h
  rcases hopen : d.openFile p with ⟨fault | other, f⟩
  · rw [hopen] at h
    cases h
  · rw [hopen] at h
    cases h
    obtain ⟨-, -, place, hlocate⟩ := openFile_eq_ok hopen
    exact ⟨place, (Rewrites.setContent f id (.plain [])).locate_file_iff.2 hlocate⟩

/-- Whether two attempts to write a file fail alike, or both leave one at the path that is the same
on both disks. -/
inductive Writes (ids : Set Id) (path : Path) :
    Except Error Unit × Disk → Except Error Unit × Disk → Prop
  | failed (fault : Error) {d e : Disk} (h : Reworded ids d e) :
      Writes ids path (.error fault, d) (.error fault, e)
  | written {id : Id} {place : Location} {d e : Disk}
      (hlocate : d.locate path = .ok (.file place id)) (h : Reworded (ids \ {id}) d e) :
      Writes ids path (.ok (), d) (.ok (), e)

namespace Table

variable (table : Table) (path : Path) (h : Reworded ids d e)
include h

theorem writeTo_reworded : Writes ids path (table.writeTo d path) (table.writeTo e path) := by
  have hcreated := h.createFile path
  unfold writeTo
  generalize hcreate : d.createFile path = x at hcreated ⊢
  generalize e.createFile path = y at hcreated ⊢
  obtain ⟨fault, h⟩ | @⟨id, d, e, h⟩ := hcreated
  · exact .failed _ h
  obtain ⟨place, hlocate⟩ := locate_of_createFile hcreate
  have hwrote := Buffered.writeAll_reworded id table.pieces h
  have hrewrites := Buffered.rewrites_writeAll id table.pieces d
  dsimp only
  generalize Buffered.writeAll id table.pieces d = x at hwrote hrewrites ⊢
  generalize Buffered.writeAll id table.pieces e = y at hwrote ⊢
  obtain @⟨fault | _, d, e, h⟩ := hwrote
  · exact .failed _ (h.mono fun _ hid => hid.1)
  simp only [Disk.sync, nextFault_eq, h.faults]
  cases d.faults.head?.join with
  | some fault => exact .failed _ (h.spent.mono fun _ hid => hid.1)
  | none =>
    exact .written ((locate_spent d path).trans (hrewrites.locate_file_iff.2 hlocate)) h.spent

theorem publish_reworded : Writes ids path (table.publish d path) (table.publish e path) := by
  have hwrote := table.writeTo_reworded (draftPath path) h
  unfold publish
  generalize table.writeTo d (draftPath path) = x at hwrote ⊢
  generalize table.writeTo e (draftPath path) = y at hwrote ⊢
  obtain ⟨fault, h⟩ | @⟨id, place, d, e, hdraft, h⟩ := hwrote
  · exact .failed _ h
  have hrenamed := h.rename (draftPath path) path
  dsimp only
  generalize hrename : d.rename (draftPath path) path = x at hrenamed ⊢
  generalize e.rename (draftPath path) path = y at hrenamed ⊢
  obtain ⟨fault | _, h⟩ := hrenamed
  · exact .failed _ (h.mono fun _ hid => hid.1)
  · -- What has the name now is the draft.
    obtain ⟨_, _, new, hsource, htarget, -⟩ := locate_of_rename hrename
    rw [hdraft] at hsource
    cases hsource
    exact .written htarget h

/-- A table is written alike, whatever the texts are, and then is the same on both disks. -/
theorem persist_reworded : Writes ids path (table.persist d path) (table.persist e path) := by
  unfold persist
  refine (h.makeParents path).elim ?_
  rintro (⟨parent, fault⟩ | _) d e h
  · exact .failed _ h
  have hpublished := table.publish_reworded path h
  dsimp only
  generalize table.publish d path = x at hpublished ⊢
  generalize table.publish e path = y at hpublished ⊢
  obtain @⟨fault, d, e, h⟩ | ⟨hlocate, h⟩ := hpublished
  · dsimp only
    refine (h.removeFile (draftPath path)).elim ?_
    rintro _ _ _ h
    exact .failed fault h
  · exact .written hlocate h

end Table

/-- Whether two generations come out the same, and one that went well leaves the table the same. -/
structure Generation.Reworded (ids : Set Id) (left right : Generation) : Prop where
  result : right.result = left.result
  events : right.events = left.events
  disk : Disk.Reworded ids left.disk right.disk
  table : ∀ summary, left.result = .ok summary → ∃ place id,
    left.disk.locate summary.path = .ok (.file place id) ∧
      Disk.Reworded (ids \ {id}) left.disk right.disk

theorem generate_reworded {σ : Type} [WordSource σ] (config : Config) (source : σ)
    (h : Reworded ids d e) :
    (generate config source d).Reworded ids (generate config source e) := by
  unfold generate
  split
  · exact ⟨rfl, rfl, h, nofun⟩
  · next catalog _ =>
    split
    · exact ⟨rfl, rfl, h, nofun⟩
    · next range _ =>
      have hwrote := (seededTable catalog range config.weights.seed source).persist_reworded
        config.weights.outputPath h
      dsimp only
      generalize Table.persist _ d _ = x at hwrote ⊢
      generalize Table.persist _ e _ = y at hwrote ⊢
      obtain ⟨fault, h⟩ | @⟨id, place, d, e, hlocate, h⟩ := hwrote
      · exact ⟨rfl, rfl, h, nofun⟩
      · refine ⟨rfl, rfl, h.mono fun _ hid => hid.1, ?_⟩
        rintro _ ⟨⟩
        exact ⟨place, id, hlocate, h⟩

end SqlReplay.Weights
