import SqlReplay.Event.Journal
import SqlReplay.Proofs.Storage.Rewording

/-!
# Journals do not read texts

A journal appends to its file and never reads it.  On disks that are the same but for some texts it
writes the same, to the file and to the error stream.
-/

namespace SqlReplay.Logging

open Storage Disk

variable {ids : Set Id} {d e : Disk} {l k : Logging}

/-- Whether two journals are the same, on disks that are the same but for some texts. -/
inductive Reworded (ids : Set Id) : Logging → Logging → Prop
  | mk (journal : Journal) (errors : ErrorStream) {d e : Disk} (h : Disk.Reworded ids d e) :
      Reworded ids ⟨journal, d, errors⟩ ⟨journal, e, errors⟩

theorem openFile_reworded (path : Path) (h : Disk.Reworded ids d e) :
    Matches ids (Journal.openFile path d) (Journal.openFile path e) := by
  unfold Journal.openFile
  refine (h.makeParents path).elim ?_
  rintro (⟨parent, fault⟩ | _) _ _ h
  · exact .mk _ h
  · dsimp only
    refine (h.openFile path).elim ?_
    rintro (fault | id) _ _ h <;> exact .mk _ h

theorem opening_reworded (path : Path) (errors : ErrorStream) (h : Disk.Reworded ids d e) :
    Reworded ids (Journal.opening path d errors) (Journal.opening path e errors) := by
  unfold Journal.opening
  refine (openFile_reworded path h).elim ?_
  rintro (fault | id) _ _ h <;> exact .mk _ _ h

namespace Reworded

theorem putError (h : Reworded ids l k) (line : String) :
    Reworded ids (l.putError line) (k.putError line) := by
  obtain ⟨journal, errors, h⟩ := h
  exact .mk _ _ h

theorem write (h : Reworded ids l k) (entry : Entry) :
    Reworded ids (l.write entry) (k.write entry) := by
  obtain @⟨⟨path, channel, lines⟩, errors, d, e, h⟩ := h
  cases channel with
  | file id buffer =>
    simp only [Logging.write]
    refine (Buffered.put_reworded id buffer entry.lineBytes h).elim ?_
    rintro (fault | _) buffer d e h
    · dsimp only
      refine (Buffered.drain_reworded id buffer h).elim ?_
      rintro _ _ _ _ h
      exact putError (.mk _ _ h) _
    · exact .mk _ _ h
  | errorStream => exact putError (.mk _ _ h) _
  | nowhere => exact .mk _ _ h

theorem writeAll (h : Reworded ids l k) (entries : List Entry) :
    Reworded ids (l.writeAll entries) (k.writeAll entries) := by
  induction entries generalizing l k with
  | nil => exact h
  | cons entry rest ih => exact ih (h.write entry)

theorem flush (h : Reworded ids l k) : Reworded ids l.flush k.flush := by
  obtain @⟨⟨path, channel, lines⟩, errors, d, e, h⟩ := h
  cases channel with
  | file id buffer =>
    simp only [Logging.flush]
    refine (Buffered.drain_reworded id buffer h).elim ?_
    rintro _ buffer _ _ h
    exact .mk _ _ h
  | errorStream => exact .mk _ _ h
  | nowhere => exact .mk _ _ h

theorem disk (h : Reworded ids l k) : Disk.Reworded ids l.disk k.disk := by
  obtain ⟨journal, errors, h⟩ := h
  exact h

theorem finish (h : Reworded ids l k) : Disk.Reworded ids l.finish k.finish := h.flush.flush.disk

theorem errors (h : Reworded ids l k) : k.errors = l.errors := by
  obtain ⟨journal, errors, h⟩ := h
  rfl

end Reworded

end SqlReplay.Logging
