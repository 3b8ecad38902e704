import Mathlib.Data.List.Induction
import SqlReplay.Proofs.Event.WholeLines
import SqlReplay.Proofs.Storage.Leaving
import SqlReplay.Proofs.Storage.Prepared

/-!
# Journals beside other work

While a journal is open, others change the disk. As long as they leave its file alone, it does not
matter when the lines of the journal are written (`Logging.Goes`): in the end the file holds what it
held at first and the lines of all entries, in order, each once (`read_of_goes`).
-/

namespace SqlReplay

open Storage

namespace Logging

variable {id : Id} {start buffer bytes : Bytes} {errors : ErrorStream} {l l' : Logging} {p : Path}
  {entries : List Entry}

/-- Whether a journal comes to a state by writing entries, in order, while others change the disk
but leave its file alone. -/
inductive Goes (id : Id) (l : Logging) : List Entry → Logging → Prop
  | refl : Goes id l [] l
  | write {entries : List Entry} {l' : Logging} (h : Goes id l entries l') (entry : Entry) :
    Goes id l (entries ++ [entry]) (l'.write entry)
  | elsewhere {entries : List Entry} {l' : Logging} {d : Disk} (h : Goes id l entries l')
    (hleaves : Disk.Leaves id l'.disk d) (hfaults : d.faults = []) :
    Goes id l entries { l' with disk := d }

theorem goes_writeAll (id : Id) (l : Logging) (entries : List Entry) :
    Goes id l entries (l.writeAll entries) := by
  induction entries using List.reverseRecOn with
  | nil => exact .refl
  | append_singleton entries entry ih =>
    rw [writeAll, List.foldl_append]
    exact ih.write entry

/-- A journal goes on with its file if others leave that alone. -/
theorem Works.elsewhere (h : Works p id l buffer bytes) {d : Disk}
    (hleaves : Disk.Leaves id l.disk d) (hfaults : d.faults = []) :
    Works p id { l with disk := d } buffer bytes := by
  obtain ⟨hpath, hchannel, ⟨-, hfile⟩, hleads⟩ := h
  refine ⟨hpath, hchannel, ⟨hfaults, ?_⟩, hleaves.leads hleads⟩
  rwa [← hleaves.file] at hfile

/-- The file holds the lines of the first entries, whole, and the buffer those of the others. -/
theorem Works.goes (h : Works p id l [] start) (hgoes : Goes id l entries l') :
    ∃ filed held, filed ++ held = entries ∧
      Works p id l' (linesOf held) (start ++ linesOf filed) := by
  induction hgoes with
  | refl =>
    refine ⟨[], [], rfl, ?_⟩
    rwa [linesOf, List.flatMap_nil, List.append_nil]
  | write _ entry ih =>
    obtain ⟨filed, held, rfl, hworks⟩ := ih
    have hall : start ++ linesOf (filed ++ held) = start ++ linesOf filed ++ linesOf held := by
      rw [linesOf_append, List.append_assoc]
    cases hworks.writes entry with
    | gathered hnext =>
      refine ⟨filed, held ++ [entry], (List.append_assoc filed held [entry]).symm, ?_⟩
      rwa [linesOf_append, linesOf_singleton]
    | drained hnext =>
      refine ⟨filed ++ held, [entry], rfl, ?_⟩
      rwa [linesOf_singleton, hall]
    | passed hnext =>
      refine ⟨filed ++ held ++ [entry], [], List.append_nil _, ?_⟩
      rwa [linesOf_append, linesOf_singleton, ← List.append_assoc, hall]
  | elsewhere _ hleaves hfaults ih =>
    obtain ⟨filed, held, hsum, hworks⟩ := ih
    exact ⟨filed, held, hsum, hworks.elsewhere hleaves hfaults⟩

/-- What can be read where a journal was, once it has ended. -/
theorem read_of_goes (h : Works p id l [] start) (hgoes : Goes id l entries l') :
    (l'.finish.read p).map Content.bytes = .ok (start ++ linesOf entries) := by
  obtain ⟨filed, held, rfl, hworks⟩ := h.goes hgoes
  obtain ⟨htakes, hleads⟩ := hworks.finish
  rw [hleads.read htakes.shows, linesOf_append, List.append_assoc]

/-- What can be read where a journal is that has not ended. -/
theorem read_before_finish (h : Works p id l [] start) (hgoes : Goes id l entries l') :
    ∃ filed, filed <+: entries ∧
      (l'.disk.read p).map Content.bytes = .ok (start ++ linesOf filed) := by
  obtain ⟨filed, held, rfl, hworks⟩ := h.goes hgoes
  exact ⟨filed, List.prefix_append filed held, hworks.leads.read hworks.takes.shows⟩

theorem numbered_opening {d : Disk} (hd : d.Numbered) (p : Path) (errors : ErrorStream) :
    (Journal.opening p d errors).disk.Numbered := by
  have hmade := (Disk.makeParents_grown d p).numbered hd
  unfold Journal.opening Journal.openFile
  generalize d.makeParents p = made at hmade
  obtain ⟨_ | _, e⟩ := made
  · exact hmade
  · have hopened := Disk.Numbered.openFile hmade p
    dsimp only at hopened ⊢
    generalize e.openFile p = got at hopened
    obtain ⟨_ | _, f⟩ := got <;> exact hopened

theorem path_opening (p : Path) (d : Disk) (errors : ErrorStream) :
    (Journal.opening p d errors).journal.path = p := by
  unfold Journal.opening
  generalize Journal.openFile p d = got
  obtain ⟨_ | _, e⟩ := got <;> rfl

theorem leads_of_opening {d : Disk}
    (hopen : (Journal.opening p d errors).journal.channel = .file id []) :
    Disk.Leads p (Journal.opening p d errors).disk id := by
  rcases opening_cases p d errors with ⟨id', e, hopened, hopening⟩ | ⟨fault, e, hopening⟩
  · rw [hopening] at hopen ⊢
    cases hopen
    exact leads_of_openFile hopened
  · rw [hopening] at hopen
    cases hopen

/-- The file of a journal holds what it held before, or is new and empty.  If anything could be read
at the journal's path, it is what that file holds. -/
theorem file_of_opening {d : Disk} {f : File}
    (hopen : (Journal.opening p d errors).journal.channel = .file id [])
    (hfile : (Journal.opening p d errors).disk.file? id = some f) :
    (d.file? id = some f ∨ id = d.nextId ∧ f.content = .plain []) ∧
      ∀ content, d.read p = .ok content → f.content = content := by
  rcases opening_cases p d errors with ⟨id', e, hopened, hopening⟩ | ⟨fault, e, hopening⟩
  · rw [hopening] at hopen hfile
    cases hopen
    have hgrown := Disk.makeParents_grown d p
    unfold Journal.openFile at hopened
    generalize d.makeParents p = made at hopened hgrown
    obtain ⟨_ | _, g⟩ := made
    · cases hopened
    dsimp only at hopened hgrown hfile
    cases hnode : g.openFile p with
    | mk result e' =>
      rw [hnode] at hopened
      cases result with
      | error fault => cases hopened
      | ok _ =>
        cases hopened
        have hfound : ∀ content, d.read p = .ok content → ∃ place other file,
            g.locate p = .ok (.file place other) ∧ g.file? other = some file ∧
              file.content = content := by
          intro content hread
          obtain ⟨-, place, other, file, hlocate, hold, hcontent⟩ := Disk.read_eq_ok.1 hread
          exact ⟨place, other, file, hgrown.locate_found hlocate nofun,
            (hgrown.file? other).trans hold, hcontent⟩
        rcases Disk.origin_of_openFile hnode with ⟨⟨place, hlocate⟩, hsame⟩ | ⟨hlacks, hid, hnew⟩
        · rw [hsame] at hfile
          refine ⟨.inl ((hgrown.file? _).symm.trans hfile), fun content hread => ?_⟩
          obtain ⟨place', other, file, hlocate', hold, hcontent⟩ := hfound content hread
          rw [hlocate] at hlocate'
          cases hlocate'
          rw [hfile] at hold
          cases hold
          exact hcontent
        · rw [hnew] at hfile
          cases hfile
          refine ⟨.inr ⟨hid.trans hgrown.nextId, rfl⟩, fun content hread => ?_⟩
          obtain ⟨place', other, file, hlocate', -, -⟩ := hfound content hread
          exact absurd hlocate' (hlacks place' other)
  · rw [hopening] at hopen
    cases hopen

end Logging

end SqlReplay
