import SqlReplay.Proofs.Storage.Writing

/-!
# Appending to an open file

What each write through a buffer does to an open file, failures included. An append fails and
leaves the file alone, or puts all its bytes after what the file shows (`Disk.Shows`). What
is put into a buffer is gathered there, follows the buffer into the file, or is refused
(`Buffered.puts_put`); in each case the file takes the buffer and the bytes whole or not at all.

A file that takes all writes (`Disk.Takes`) is found again when it is opened anew
(`Disk.Leads.openFile`).
-/

namespace SqlReplay.Storage

namespace Disk

variable {d e : Disk} {id : Id} {bytes more : Bytes} {p : Path}

/-! ## Single writes -/

/-- Whether a file keeps what is written to it and shows the bytes. -/
def Shows (d : Disk) (id : Id) (bytes : Bytes) : Prop :=
  ∃ f, d.file? id = some f ∧ f.discards = false ∧ f.content.bytes = bytes

theorem append_of_file? {f : File} (hfile : d.file? id = some f) (hdiscards : f.discards = false)
    (more : Bytes) : d.append id more =
      match d.faults.head?.join with
      | some fault => (.error fault, d.spent)
      | none =>
        if f.writesLeft = some 0 then (.error .noSpace, d.spent)
        else (.ok (), d.spent.setFile id { f with
          content := .plain (f.content.bytes ++ more)
          writesLeft := f.writesLeft.map (· - 1) }) := by
  cases hfault : d.faults.head?.join
  all_goals
    simp only [Disk.append, nextFault_eq, hfault, file?_spent, hfile, hdiscards,
      Bool.false_eq_true, if_false]

theorem Shows.append_ok (h : d.Shows id bytes) (happend : d.append id more = (.ok (), e)) :
    e.Shows id (bytes ++ more) := by
  obtain ⟨f, hfile, hdiscards, rfl⟩ := h
  rw [append_of_file? hfile hdiscards] at happend
  split at happend
  · cases happend
  · split at happend
    · cases happend
    · cases happend
      exact ⟨_, (file?_setFile _ _ _ _).trans (if_pos rfl), hdiscards, rfl⟩

theorem Shows.append_error (h : d.Shows id bytes) {fault : Fault}
    (happend : d.append id more = (.error fault, e)) : e.Shows id bytes := by
  obtain ⟨f, hfile, hdiscards, rfl⟩ := h
  rw [append_of_file? hfile hdiscards] at happend
  split at happend
  · cases happend
    exact ⟨f, hfile, hdiscards, rfl⟩
  · split at happend
    · cases happend
      exact ⟨f, hfile, hdiscards, rfl⟩
    · cases happend

/-- Whether a file takes whatever is written to it, without a fault, and shows the bytes. -/
structure Takes (d : Disk) (id : Id) (bytes : Bytes) : Prop where
  faults : d.faults = []
  file : ∃ f, d.file? id = some f ∧ f.writesLeft = none ∧ f.discards = false ∧
    f.content.bytes = bytes

theorem Takes.shows (h : d.Takes id bytes) : d.Shows id bytes := by
  obtain ⟨f, hfile, -, hdiscards, hbytes⟩ := h.file
  exact ⟨f, hfile, hdiscards, hbytes⟩

theorem Takes.eq_of_shows (h : d.Takes id bytes) (hshows : d.Shows id more) : bytes = more := by
  obtain ⟨f, hfile, -, rfl⟩ := h.shows
  obtain ⟨f', hfile', -, rfl⟩ := hshows
  rw [hfile] at hfile'
  cases hfile'
  rfl

theorem spent_of_faults (h : d.faults = []) : d.spent = d := by
  obtain ⟨nodes, files, nextId, home, faults⟩ := d
  subst h
  rfl

theorem Takes.append (h : d.Takes id bytes) (more : Bytes) :
    ∃ e, d.append id more = (.ok (), e) ∧ e.Takes id (bytes ++ more) := by
  obtain ⟨f, hfile, hleft, hdiscards, rfl⟩ := h.file
  have hroom : ¬ f.writesLeft = some 0 := by
    rw [hleft]
    exact nofun
  rw [append_of_file? hfile hdiscards, spent_of_faults h.faults, h.faults]
  exact ⟨_, if_neg hroom, h.faults, _, (file?_setFile _ _ _ _).trans (if_pos rfl),
    by rw [hleft]; rfl, hdiscards, rfl⟩

/-! ## Opening again -/

/-- Whether a path leads to a file, through directories that are there. -/
structure Leads (p : Path) (d : Disk) (id : Id) : Prop where
  parent : ∀ {parent : Path}, p.parent? = some parent → ∃ place, d.Enters parent place
  slash : p.hasTrailingSlash = false
  file : ∃ place, d.locate p = .ok (.file place id)

theorem makeParents_eq_ok (h : d.makeParents p = (.ok (), e)) {parent : Path}
    (hparent : p.parent? = some parent) : ∃ place, e.Enters parent place := by
  simp only [makeParents, hparent] at h
  rcases hmade : d.makeDirectories parent with ⟨fault | _, f⟩
  · rw [hmade] at h
    cases h
  · rw [hmade] at h
    cases h
    exact (makeDirectories_eq_ok hmade).2

theorem Leads.rewrites (h : Leads p d id) {other : Id} (hr : Rewrites other d e) :
    Leads p e id where
  parent hparent := by
    obtain ⟨place, henters⟩ := h.parent hparent
    exact ⟨place, henters.congr hr.sameDirectories⟩
  slash := h.slash
  file := by
    obtain ⟨place, hlocate⟩ := h.file
    exact ⟨place, hr.locate_file_iff.2 hlocate⟩

theorem Leads.makeParents (h : Leads p d id) (hfaults : d.faults = []) :
    d.makeParents p = (.ok (), d) := by
  unfold Disk.makeParents
  cases hparent : p.parent? with
  | none => rfl
  | some parent =>
    obtain ⟨place, henters⟩ := h.parent hparent
    simp only [makeDirectories_of_enters hfaults henters]

theorem Leads.openFile (h : Leads p d id) (hfaults : d.faults = []) :
    d.openFile p = (.ok id, d) := by
  obtain ⟨place, hlocate⟩ := h.file
  simp only [Disk.openFile, nextFault, hfaults, hlocate, h.slash, Bool.false_eq_true, if_false]

/-- What a file shows is what is read at a path that leads to it. -/
theorem Leads.read (h : Leads p d id) (hshows : d.Shows id bytes) :
    (d.read p).map Content.bytes = .ok bytes := by
  obtain ⟨place, hlocate⟩ := h.file
  obtain ⟨f, hfile, -, hbytes⟩ := hshows
  rw [read_eq_ok.2 ⟨h.slash, place, id, f, hlocate, hfile, rfl⟩, Except.map, hbytes]

end Disk

/-! ## Writes through a buffer -/

namespace Buffered

open Disk

variable {id : Id} {d e : Disk} {buffer piece bytes more : Bytes}

theorem drain_nil (id : Id) (d : Disk) : drain id [] d = (.ok (), [], d) := rfl

/-- A buffer is drained whole or keeps its bytes. -/
theorem drain_cases (id : Id) (buffer : Bytes) (d : Disk) :
    (∃ e, drain id buffer d = (.ok (), [], e)) ∨
      ∃ fault e, drain id buffer d = (.error fault, buffer, e) := by
  unfold drain
  split
  · exact .inl ⟨d, rfl⟩
  · rcases d.append id buffer with ⟨fault | _, e⟩
    · exact .inr ⟨fault, e, rfl⟩
    · exact .inl ⟨e, rfl⟩

theorem shows_of_drain_ok (h : d.Shows id bytes)
    (hdrain : drain id buffer d = (.ok (), more, e)) : e.Shows id (bytes ++ buffer) := by
  unfold drain at hdrain
  split at hdrain
  · next hempty =>
    cases hdrain
    rwa [List.isEmpty_iff.1 hempty, List.append_nil]
  · rcases happend : d.append id buffer with ⟨fault | _, f⟩
    · rw [happend] at hdrain
      cases hdrain
    · rw [happend] at hdrain
      cases hdrain
      exact h.append_ok happend

theorem shows_of_drain_error (h : d.Shows id bytes) {fault : Fault}
    (hdrain : drain id buffer d = (.error fault, more, e)) : e.Shows id bytes := by
  unfold drain at hdrain
  split at hdrain
  · cases hdrain
  · rcases happend : d.append id buffer with ⟨fault' | _, f⟩
    · rw [happend] at hdrain
      cases hdrain
      exact h.append_error happend
    · rw [happend] at hdrain
      cases hdrain

theorem drain_takes (h : d.Takes id bytes) (buffer : Bytes) :
    ∃ e, drain id buffer d = (.ok (), [], e) ∧ e.Takes id (bytes ++ buffer) := by
  unfold drain
  split
  · next hempty =>
    rw [List.isEmpty_iff.1 hempty, List.append_nil]
    exact ⟨d, rfl, h⟩
  · obtain ⟨e, happend, htakes⟩ := h.append buffer
    exact ⟨e, by rw [happend], htakes⟩

/-- What can come of putting a piece into a buffer. -/
inductive Puts (id : Id) (buffer piece : Bytes) (d : Disk) :
    Except Fault Unit × Bytes × Disk → Prop
  /-- The piece joins the buffer. -/
  | gathered : Puts id buffer piece d (.ok (), buffer ++ piece, d)
  /-- The buffer is written, and the piece begins the next. -/
  | drained {e : Disk} (hdrain : drain id buffer d = (.ok (), [], e)) :
    Puts id buffer piece d (.ok (), piece, e)
  /-- The buffer is written, and the piece after it. -/
  | passed {e f : Disk} (hdrain : drain id buffer d = (.ok (), [], e))
    (happend : e.append id piece = (.ok (), f)) : Puts id buffer piece d (.ok (), [], f)
  /-- The buffer cannot be written. -/
  | stuck {fault : Fault} {e : Disk} (hdrain : drain id buffer d = (.error fault, buffer, e)) :
    Puts id buffer piece d (.error fault, buffer, e)
  /-- The buffer is written, but the piece cannot be. -/
  | refused {fault : Fault} {e f : Disk} (hdrain : drain id buffer d = (.ok (), [], e))
    (happend : e.append id piece = (.error fault, f)) : Puts id buffer piece d (.error fault, [], f)

theorem puts_of_drained {id : Id} {buffer : Bytes} {d e : Disk}
    (hdrain : drain id buffer d = (.ok (), [], e)) (piece : Bytes) :
    Puts id buffer piece d (if capacity ≤ piece.length then
      match e.append id piece with
      | (.ok (), f) => (.ok (), [], f)
      | (.error fault, f) => (.error fault, [], f)
    else (.ok (), [] ++ piece, e)) := by
  split
  · rcases happend : e.append id piece with ⟨fault | _, f⟩
    · exact .refused hdrain happend
    · exact .passed hdrain happend
  · exact .drained hdrain

theorem puts_put (id : Id) (buffer piece : Bytes) (d : Disk) :
    Puts id buffer piece d (put id buffer piece d) := by
  simp only [put]
  split
  · exact .gathered
  · next hfits =>
    by_cases hroom : capacity - buffer.length < piece.length
    · simp only [if_pos hroom]
      rcases drain_cases id buffer d with ⟨e, hdrain⟩ | ⟨fault, e, hdrain⟩
      · rw [hdrain]
        exact puts_of_drained hdrain piece
      · rw [hdrain]
        exact .stuck hdrain
    · simp only [if_neg hroom]
      by_cases hlarge : capacity ≤ piece.length
      · -- A piece that fills a whole buffer fits only an empty one.
        have hempty : buffer = [] := by
          have hcapacity : capacity = 8192 := rfl
          exact List.length_eq_zero_iff.1 (by omega)
        subst hempty
        exact puts_of_drained (drain_nil id d) piece
      · rw [if_neg hlarge]
        exact .gathered

end Buffered

end SqlReplay.Storage
