import SqlReplay.Proofs.Sql.Staying
import SqlReplay.Proofs.Storage.Sparing

/-!
# Closing a session

A session that is closed while it has changes takes its journal away, and the changes with itself:
its file keeps what was committed to it (`committed_close`) and has no lock of the session
(`lock?_close`).  Nothing else is touched (`touches_close`).
-/

namespace SqlReplay.Sql.Session

open Storage

variable (s : Session) (d : Disk)

/-- The disk once the journal of a session is removed, if the session has changes. -/
def unjournaled : Disk := if s.working.isSome then (d.removeFile s.journal).2 else d

theorem close_eq : s.close d = s.setLock (s.unjournaled d) none := rfl

theorem touches_unjournaled : Disk.Touches [s.journal] [] d (s.unjournaled d) := by
  unfold unjournaled
  split
  · exact Disk.touches_removeFile d s.journal
  · exact Disk.Touches.refl _ _ d

theorem file?_unjournaled (id : Id) : (s.unjournaled d).file? id = d.file? id := by
  unfold unjournaled
  split
  · exact Disk.file?_removeFile d s.journal id
  · rfl

/-- Closing changes no more of a file than its locks. -/
theorem file?_close_map (id : Id) : (s.close d).file? id = (d.file? id).map fun f =>
    if id = s.file then { f with locks := f.locks.filter fun l => l.1 ≠ s.id } else f := by
  simp only [close_eq, setLock, Disk.file?_modifyFile, file?_unjournaled]
  by_cases hid : id = s.file
  · simp only [hid, if_true]
  · simp only [hid, if_false, Option.map_id']

/-- What is committed to a file is what was before. -/
theorem committed_close (id : Id) : committed (s.close d) id = committed d id := by
  unfold committed
  rw [file?_close_map]
  cases d.file? id with
  | none => rfl
  | some f =>
    simp only [Option.map_some]
    split <;> rfl

theorem lock?_close : s.lock? (s.close d) = none := by
  unfold lock? locks
  rw [file?_close_map]
  cases d.file? s.file with
  | none => rfl
  | some f =>
    simp only [Option.map_some, if_true, Option.getD_some]
    exact (lookup_filter_key_ne s.id s.id f.locks).trans (if_pos rfl)

/-- No file is left at the journal's path if there were changes and the journal could be removed. -/
theorem lacks_journal_close (hworking : s.working.isSome = true)
    (hremoved : (d.removeFile s.journal).1 = .ok ()) : (s.close d).Lacks s.journal := by
  have hlacks := Disk.lacks_of_removed hremoved
  intro place id hlocate
  rw [close_eq, setLock, Disk.locate_congr (e := s.unjournaled d)
    (fun _ => Disk.node?_modifyFile _ _ _ _) (Disk.home_modifyFile _ _ _), unjournaled,
    if_pos hworking] at hlocate
  exact hlacks place id hlocate

/-- To set a lock touches nothing that could be read. -/
theorem touches_setLock (level : Option LockLevel) : Disk.Touches [] [] d (s.setLock d level) where
  numbered hd := hd.modifyFile s.file _
  faults := (Disk.faults_modifyFile d s.file _).symm ▸ List.suffix_refl d.faults
  directories := Disk.sameDirectories_modifyFile _ _ _
  nextId := Nat.le_of_eq (Disk.nextId_modifyFile _ _ _).symm
  node _ := Disk.node?_modifyFile _ _ _ _
  renamed hnode _ := (Disk.node?_modifyFile _ _ _ _).symm.trans hnode
  content {id} _ _ := by
    rw [setLock, Disk.file?_modifyFile]
    split
    · next hid =>
      subst hid
      cases d.file? s.file with
      | none => rfl
      | some f => cases level <;> rfl
    · rfl

/-- Closing takes no more away than the journal. -/
theorem touches_close : Disk.Touches [s.journal] [] d (s.close d) := by
  rw [close_eq]
  exact (s.touches_unjournaled d).trans
    ((s.touches_setLock (s.unjournaled d) none).mono (List.nil_subset _) (List.nil_subset _))

end SqlReplay.Sql.Session
