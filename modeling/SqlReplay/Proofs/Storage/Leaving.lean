import SqlReplay.Proofs.Storage.Appending
import SqlReplay.Proofs.Storage.Sparing

/-!
# A file that is left alone

A file is left alone (`Disk.Leaves`) if it stays as it is, under the names it has and no others, and
no directory comes or goes.  So it is by all that is done to other files: one operation each is
enough to see that, as long as none of the paths leads to the file (`Disk.Away`).
-/

namespace SqlReplay.Storage.Disk

variable {d e f : Disk} {id : Id} {p : Path} {place : Location}

/-- Whether a path does not lead to the file. -/
def Away (id : Id) (d : Disk) (p : Path) : Prop := ∀ place, d.locate p ≠ .ok (.file place id)

/-- Whether what a path leads to is another thing than the file can be looked up. -/
instance (id : Id) (d : Disk) (p : Path) : Decidable (Away id d p) :=
  decidable_of_iff ((match d.locate p with
      | .ok (.file _ other) => other != id
      | _ => true) = true) <| by
    unfold Away
    split
    · rename_i place other hlocate
      rw [bne_iff_ne, hlocate]
      constructor
      · rintro hne _ ⟨⟩
        exact hne rfl
      · rintro haway rfl
        exact haway place rfl
    · rename_i hother
      exact iff_of_true rfl fun place => hother place id

/-- Whether a file is left alone. -/
structure Leaves (id : Id) (d e : Disk) : Prop where
  directories : SameDirectories d e
  nextId : d.nextId ≤ e.nextId
  names : ∀ place, e.node? place = some (.file id) ↔ d.node? place = some (.file id)
  file : e.file? id = d.file? id

namespace Leaves

theorem refl (id : Id) (d : Disk) : Leaves id d d :=
  ⟨SameDirectories.refl d, Nat.le_refl _, fun _ => Iff.rfl, rfl⟩

theorem spent (id : Id) (d : Disk) : Leaves id d d.spent :=
  ⟨sameDirectories_spent d, Nat.le_refl _, fun _ => Iff.rfl, rfl⟩

theorem trans (h : Leaves id d e) (h' : Leaves id e f) : Leaves id d f where
  directories := h.directories.trans h'.directories
  nextId := Nat.le_trans h.nextId h'.nextId
  names place := (h'.names place).trans (h.names place)
  file := h'.file.trans h.file

theorem lt (h : Leaves id d e) (hid : id < d.nextId) : id < e.nextId :=
  Nat.lt_of_lt_of_le hid h.nextId

theorem locate_iff (h : Leaves id d e) :
    e.locate p = .ok (.file place id) ↔ d.locate p = .ok (.file place id) := by
  rw [locate_eq_file_iff, locate_eq_file_iff, seat?_congr h.directories, h.names]

theorem away (h : Leaves id d e) (haway : Away id d p) : Away id e p :=
  fun place hlocate => haway place (h.locate_iff.1 hlocate)

theorem leads (h : Leaves id d e) (hleads : Leads p d id) : Leads p e id where
  parent hparent := by
    obtain ⟨place, henters⟩ := hleads.parent hparent
    exact ⟨place, henters.congr h.directories⟩
  slash := hleads.slash
  file := by
    obtain ⟨place, hlocate⟩ := hleads.file
    exact ⟨place, h.locate_iff.2 hlocate⟩

end Leaves

/-- A path leads to its file also once there are more directories. -/
theorem Leads.grown (h : Leads p d id) (hgrown : Grown d e) : Leads p e id where
  parent hparent := by
    obtain ⟨place, henters⟩ := h.parent hparent
    refine ⟨place, ?_⟩
    rcases henters with ⟨hempty, rfl⟩ | hlocate
    · exact .inl ⟨hempty, hgrown.home.symm⟩
    · exact .inr (hgrown.locate_found hlocate nofun)
  slash := h.slash
  file := by
    obtain ⟨place, hlocate⟩ := h.file
    exact ⟨place, hgrown.locate_found hlocate nofun⟩

/-! ## Operations on other files -/

theorem Rewrites.leaves {other : Id} (h : Rewrites other d e) (hne : id ≠ other) : Leaves id d e :=
  ⟨h.sameDirectories, Nat.le_of_eq h.nextId.symm, fun place => by rw [h.node], h.file id hne⟩

theorem leaves_modifyFile {other : Id} (hne : id ≠ other) (d : Disk) (change : File → File) :
    Leaves id d (d.modifyFile other change) where
  directories := sameDirectories_modifyFile d other change
  nextId := Nat.le_of_eq (nextId_modifyFile d other change).symm
  names place := by rw [node?_modifyFile]
  file := by rw [file?_modifyFile, if_neg hne]

theorem leaves_clearNode {name : Name} {dir : Location} {other : Id} (hne : other ≠ id)
    (hnode : d.node? (name :: dir) = some (.file other)) :
    Leaves id d (d.clearNode (name :: dir)) where
  directories := sameDirectories_clearNode (node?_ne_directory hnode)
  nextId := Nat.le_refl _
  names place := by
    rw [node?_clearNode]
    split
    · next hplace =>
      subst hplace
      rw [hnode]
      exact ⟨nofun, fun heq => absurd (Node.file.inj (Option.some.inj heq)) hne⟩
    · rfl
  file := rfl

theorem leaves_withFile {name : Name} {dir : Location} (hid : id < d.nextId)
    (hnode : d.node? (name :: dir) = none) : Leaves id d (d.withFile (name :: dir)) where
  directories := sameDirectories_withFile (by rw [hnode]; exact nofun)
  nextId := Nat.le_succ d.nextId
  names place := by
    rw [node?_withFile]
    split
    · next hplace =>
      subst hplace
      rw [hnode]
      exact ⟨fun heq => absurd (Node.file.inj (Option.some.inj heq)).symm (Nat.ne_of_lt hid), nofun⟩
    · rfl
  file := by rw [file?_withFile, if_neg (Nat.ne_of_lt hid)]

theorem leaves_removeFile (d : Disk) (haway : Away id d p) : Leaves id d (d.removeFile p).2 := by
  rcases removeFile_cases d p with ⟨fault, hremove, -⟩ | ⟨name, dir, other, hlocate, hremove⟩
  · rw [hremove]
    exact Leaves.spent id d
  · have hne : other ≠ id := by
      rintro rfl
      exact haway _ hlocate
    rw [hremove]
    exact (Leaves.spent id d).trans (leaves_clearNode hne (locate_eq_file_iff.1 hlocate).2)

/-- Opening leaves all files alone that are there. -/
theorem leaves_openFile (d : Disk) (p : Path) (hid : id < d.nextId) :
    Leaves id d (d.openFile p).2 := by
  by_cases hnone : d.seat? p = none ∨ p.hasTrailingSlash = true
  · obtain ⟨fault, hopen⟩ := openFile_of_no_seat hnone
    rw [hopen]
    exact Leaves.spent id d
  · rw [not_or, Bool.not_eq_true] at hnone
    obtain ⟨place, hseat⟩ := Option.ne_none_iff_exists'.1 hnone.1
    rcases openFile_of_seat? hseat hnone.2 with
      ⟨fault, -, hopen⟩ | ⟨other, -, hopen⟩ | ⟨hvacant, hopen⟩
    · rw [hopen]
      exact Leaves.spent id d
    · rw [hopen]
      exact Leaves.spent id d
    · rw [hopen]
      cases place with
      | nil => cases hvacant
      | cons name dir => exact (Leaves.spent id d).trans (leaves_withFile hid hvacant)

/-- What was opened at a path that does not lead to a file is another file. -/
theorem openFile_ne (hid : id < d.nextId) (haway : Away id d p) {other : Id}
    (hopen : d.openFile p = (.ok other, e)) : other ≠ id := by
  rintro rfl
  have hleaves := leaves_openFile d p hid
  obtain ⟨-, -, place, hlocate⟩ := openFile_eq_ok hopen
  rw [hopen] at hleaves
  exact haway place (hleaves.locate_iff.1 hlocate)

/-- What was opened is the file that the path leads to, or a new and empty one if it leads to
none. -/
theorem origin_of_openFile (hopen : d.openFile p = (.ok id, e)) :
    (∃ place, d.locate p = .ok (.file place id)) ∧ e.file? id = d.file? id ∨
      d.Lacks p ∧ id = d.nextId ∧ e.file? id = some (.holding (.plain [])) := by
  obtain ⟨hslash, -⟩ := openFile_eq_ok hopen
  cases hseat : d.seat? p with
  | none =>
    obtain ⟨fault, hrefused⟩ := openFile_of_no_seat (.inl hseat)
    rw [hrefused] at hopen
    cases hopen
  | some place =>
    rcases openFile_of_seat? hseat hslash with
      ⟨fault, -, hrefused⟩ | ⟨other, hnode, hfound⟩ | ⟨hnone, hmade⟩
    · rw [hrefused] at hopen
      cases hopen
    · rw [hfound] at hopen
      cases hopen
      exact .inl ⟨⟨place, locate_eq_file_iff.2 ⟨hseat, hnode⟩⟩, rfl⟩
    · rw [hmade] at hopen
      cases hopen
      refine .inr ⟨fun place' other hlocate => ?_, rfl, (file?_withFile _ _ _).trans (if_pos rfl)⟩
      obtain ⟨hseat', hnode⟩ := locate_eq_file_iff.1 hlocate
      rw [hseat] at hseat'
      cases hseat'
      rw [hnone] at hnode
      cases hnode

theorem leaves_createFile (d : Disk) (hid : id < d.nextId) (haway : Away id d p) :
    Leaves id d (d.createFile p).2 := by
  have hleaves := leaves_openFile d p hid
  unfold createFile
  cases hopen : d.openFile p with
  | mk result e =>
    rw [hopen] at hleaves
    cases result with
    | error fault => exact hleaves
    | ok other =>
      exact hleaves.trans (leaves_modifyFile (Ne.symm (openFile_ne hid haway hopen)) e _)

theorem createFile_ne (hid : id < d.nextId) (haway : Away id d p) {other : Id}
    (hcreate : d.createFile p = (.ok other, e)) : other ≠ id := by
  unfold createFile at hcreate
  cases hopen : d.openFile p with
  | mk result f =>
    rw [hopen] at hcreate
    cases result with
    | error fault => cases hcreate
    | ok opened =>
      cases hcreate
      exact openFile_ne hid haway hopen

/-- Renaming leaves a file alone that has neither name. -/
theorem leaves_rename {source target : Path} (d : Disk) (hsource : Away id d source)
    (htarget : Away id d target) : Leaves id d (d.rename source target).2 := by
  cases hrename : d.rename source target with
  | mk result e =>
    cases result with
    | error fault =>
      rw [rename_eq_error hrename]
      exact Leaves.spent id d
    | ok _ =>
      obtain ⟨-, n, above, moved, name, dir, hold, hseat, ⟨-, rfl⟩ | rfl⟩ := rename_eq_ok hrename
      · exact Leaves.spent id d
      · have hne : moved ≠ id := by
          rintro rfl
          exact hsource _ hold
        have hcleared := (Leaves.spent id d).trans
          (leaves_clearNode (d := d.spent) hne (locate_eq_file_iff.1 hold).2)
        have hseat' := (seat?_congr hcleared.directories target).symm.trans hseat
        refine hcleared.trans ⟨sameDirectories_setNode_file moved (node?_of_seat? hseat'),
          Nat.le_refl _, fun place => ?_, rfl⟩
        rw [node?_setNode]
        split
        · next hplace =>
          subst hplace
          refine ⟨fun heq => absurd (Node.file.inj (Option.some.inj heq)) hne, fun hnode => ?_⟩
          exact absurd (locate_eq_file_iff.2 ⟨hseat', hnode⟩) (hcleared.away htarget _)
        · rfl

end SqlReplay.Storage.Disk
