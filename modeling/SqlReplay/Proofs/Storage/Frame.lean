import SqlReplay.Proofs.Storage.Sound

/-!
# What happens at one path only

Whatever is done to the file at a path leaves alone all that stands elsewhere and all other files
(`SameBesides`).  So what can be read at a path stays as it is, unless the path leads to the same
place or to the same file (`SameBesides.read_iff`).
-/

namespace SqlReplay.Storage.Disk

variable {d e f : Disk} {p q : Path}

/-- Whether two disks have the same directories, and the same files apart from one path.  What
stands at the path is what stood there or stood nowhere. -/
structure SameBesides (p : Path) (d e : Disk) : Prop where
  directories : SameDirectories d e
  node : ∀ {place}, d.seat? p ≠ some place → e.node? place = d.node? place
  file : ∀ {place id}, d.node? place = some (.file id) →
    (∀ other, d.locate p ≠ .ok (.file other id)) → e.file? id = d.file? id
  own : ∀ {place other id}, e.locate p = .ok (.file place id) → d.node? other = some (.file id) →
    d.locate p = .ok (.file place id)

namespace SameBesides

theorem refl (p : Path) (d : Disk) : SameBesides p d d :=
  ⟨SameDirectories.refl d, fun _ => rfl, fun _ _ => rfl, fun hlocate _ => hlocate⟩

theorem spent (p : Path) (d : Disk) : SameBesides p d d.spent :=
  ⟨sameDirectories_spent d, fun _ => rfl, fun _ _ => rfl,
    fun hlocate _ => (locate_spent d p).symm.trans hlocate⟩

theorem node_of_away (h : SameBesides p d e) {place : Location} {id : Id}
    (hnode : d.node? place = some (.file id)) (haway : ∀ other, d.locate p ≠ .ok (.file other id)) :
    e.node? place = some (.file id) := by
  rw [h.node, hnode]
  intro hseat
  exact haway place (locate_eq_file_iff.2 ⟨hseat, hnode⟩)

theorem trans (h : SameBesides p d e) (h' : SameBesides p e f) : SameBesides p d f where
  directories := h.directories.trans h'.directories
  node {place} hplace := by
    have hseat : e.seat? p ≠ some place := by rwa [← seat?_congr h.directories]
    rw [h'.node hseat, h.node hplace]
  file {place id} hnode haway := by
    have hnode' := h.node_of_away hnode haway
    rw [h'.file hnode' fun other hother => haway other (h.own hother hnode), h.file hnode haway]
  own {place other id} hlocate hnode := by
    by_cases hown : ∃ own, d.locate p = .ok (.file own id)
    · -- The path leads to one place only.
      obtain ⟨own, hown⟩ := hown
      have hseat := (locate_eq_file_iff.1 hown).1
      have hlast := (locate_eq_file_iff.1 hlocate).1
      rw [← seat?_congr (h.directories.trans h'.directories), hseat] at hlast
      cases hlast
      exact hown
    · rw [not_exists] at hown
      exact h.own (h'.own hlocate (h.node_of_away hnode hown)) hnode

theorem locate_file_iff (h : SameBesides p d e) {place : Location} {id : Id}
    (hplace : d.seat? p ≠ some place) :
    e.locate q = .ok (.file place id) ↔ d.locate q = .ok (.file place id) := by
  rw [locate_eq_file_iff, locate_eq_file_iff, seat?_congr h.directories, h.node hplace]

/-- What can be read stays as it is where the path leads neither to the same place nor to the same
file. -/
theorem read_iff (h : SameBesides p d e)
    (hq : ∀ place, d.seat? q = some place → d.seat? p ≠ some place)
    (haway : ∀ place id, d.locate q = .ok (.file place id) →
      ∀ other, d.locate p ≠ .ok (.file other id)) {content : Content} :
    e.read q = .ok content ↔ d.read q = .ok content := by
  have hsame : ∀ {place : Location} {id : Id}, d.locate q = .ok (.file place id) →
      e.locate q = .ok (.file place id) ∧ e.file? id = d.file? id := by
    intro place id hlocate
    obtain ⟨hseat, hnode⟩ := locate_eq_file_iff.1 hlocate
    exact ⟨(h.locate_file_iff (hq place hseat)).2 hlocate, h.file hnode (haway place id hlocate)⟩
  rw [read_eq_ok, read_eq_ok]
  constructor
  · rintro ⟨hslash, place, id, file, hlocate, hfile, hcontent⟩
    have hseat := (locate_eq_file_iff.1 hlocate).1
    rw [← seat?_congr h.directories] at hseat
    have hback := (h.locate_file_iff (hq place hseat)).1 hlocate
    rw [(hsame hback).2] at hfile
    exact ⟨hslash, place, id, file, hback, hfile, hcontent⟩
  · rintro ⟨hslash, place, id, file, hlocate, hfile, hcontent⟩
    obtain ⟨hlocate', hfile'⟩ := hsame hlocate
    exact ⟨hslash, place, id, file, hlocate', hfile'.trans hfile, hcontent⟩

theorem withFile (hd : d.Filed) {name : Name} {dir : Location}
    (hseat : d.seat? p = some (name :: dir)) (hnone : d.node? (name :: dir) = none) :
    SameBesides p d (d.withFile (name :: dir)) where
  directories := sameDirectories_withFile (by simp [hnone])
  node hplace := by
    rw [node?_withFile, if_neg]
    rintro rfl
    exact hplace hseat
  file hnode _ := by rw [file?_withFile, if_neg (Nat.ne_of_lt (hd.numbered.node_lt hnode))]
  own {place other id} hlocate hnode := by
    have hid := Nat.ne_of_lt (hd.numbered.node_lt hnode)
    obtain ⟨hseat', hnew⟩ := locate_eq_file_iff.1 hlocate
    rw [← seat?_congr (sameDirectories_withFile (by simp [hnone])), hseat] at hseat'
    cases hseat'
    rw [node?_withFile, if_pos rfl] at hnew
    cases hnew
    exact absurd rfl hid

theorem clearNode {name : Name} {dir : Location} {id : Id}
    (hseat : d.seat? p = some (name :: dir)) (hnode : d.node? (name :: dir) = some (.file id)) :
    SameBesides p d (d.clearNode (name :: dir)) where
  directories := sameDirectories_clearNode (node?_ne_directory hnode)
  node hplace := by
    rw [node?_clearNode, if_neg]
    rintro rfl
    exact hplace hseat
  file _ _ := rfl
  own {place other id'} hlocate _ := by
    obtain ⟨hseat', hgone⟩ := locate_eq_file_iff.1 hlocate
    rw [← seat?_congr (sameDirectories_clearNode (node?_ne_directory hnode)), hseat] at hseat'
    cases hseat'
    rw [node?_clearNode, if_pos rfl] at hgone
    cases hgone

end SameBesides

theorem Rewrites.sameDirectories {id : Id} (h : Rewrites id d e) : SameDirectories d e :=
  ⟨h.home.symm, fun place => by rw [h.node]⟩

theorem Rewrites.locate_file_iff {id other : Id} (h : Rewrites id d e) {place : Location} :
    e.locate p = .ok (.file place other) ↔ d.locate p = .ok (.file place other) := by
  rw [locate_eq_file_iff, locate_eq_file_iff, seat?_congr h.sameDirectories, h.node]

/-- Rewriting the file at a path is seen in that file only. -/
theorem Rewrites.sameBesides {place : Location} {id : Id} (h : Rewrites id d e)
    (hlocate : d.locate p = .ok (.file place id)) : SameBesides p d e where
  directories := h.sameDirectories
  node _ := h.node _
  file _ haway := by
    apply h.file
    rintro rfl
    exact haway place hlocate
  own hlocate' _ := h.locate_file_iff.1 hlocate'

@[simp] theorem seat?_spent (d : Disk) (p : Path) : d.spent.seat? p = d.seat? p := by
  rw [seat?, locate_spent, seat?]

/-! ## Opening and removing -/

/-- Opening fails and changes nothing, or gives a file that stands where the path leads. -/
theorem openFile_cases (hd : d.Filed) (hslash : p.hasTrailingSlash = false) :
    (∃ fault, d.openFile p = (.error fault, d.spent)) ∨
      ∃ place id e, d.openFile p = (.ok id, e) ∧ SameBesides p d e ∧ e.Filed ∧
        e.locate p = .ok (.file place id) := by
  cases hseat : d.seat? p with
  | none => exact .inl (openFile_of_no_seat (.inl hseat))
  | some place =>
    rcases openFile_of_seat? hseat hslash with
      ⟨fault, -, hopen⟩ | ⟨id, hnode, hopen⟩ | ⟨hnone, hopen⟩
    · exact .inl ⟨fault, hopen⟩
    · exact .inr ⟨place, id, _, hopen, SameBesides.spent p d, hd.spent,
        locate_eq_file_iff.2 ⟨(seat?_spent d p).trans hseat, hnode⟩⟩
    · rcases locate_of_seat? hseat with ⟨id, hnode, -⟩ | ⟨dir, name, rfl, -, -⟩
      · rw [hnode] at hnone
        cases hnone
      · have hseat' : d.spent.seat? p = some (name :: dir) := (seat?_spent d p).trans hseat
        have hnew := SameBesides.withFile hd.spent hseat' hnone
        refine .inr ⟨name :: dir, d.nextId, _, hopen, (SameBesides.spent p d).trans hnew,
          hd.spent.withFile name dir, locate_eq_file_iff.2 ⟨?_, ?_⟩⟩
        · rw [← seat?_congr hnew.directories, hseat']
        · rw [node?_withFile, if_pos rfl]
          rfl

/-- A file that could be opened stands where the path leads, and all directories are as they
were. -/
theorem openFile_eq_ok {id : Id} (h : d.openFile p = (.ok id, e)) :
    p.hasTrailingSlash = false ∧ SameDirectories d e ∧
      ∃ place, e.locate p = .ok (.file place id) := by
  cases hslash : p.hasTrailingSlash with
  | true =>
    obtain ⟨fault, hopen⟩ := openFile_of_no_seat (d := d) (.inr hslash)
    rw [hopen] at h
    cases h
  | false =>
    cases hseat : d.seat? p with
    | none =>
      obtain ⟨fault, hopen⟩ := openFile_of_no_seat (.inl hseat)
      rw [hopen] at h
      cases h
    | some place =>
      have hseat' : d.spent.seat? p = some place := (seat?_spent d p).trans hseat
      rcases openFile_of_seat? hseat hslash with
        ⟨fault, -, hopen⟩ | ⟨id', hnode, hopen⟩ | ⟨hnone, hopen⟩
      · rw [hopen] at h
        cases h
      · rw [hopen] at h
        cases h
        exact ⟨rfl, sameDirectories_spent d, place, locate_eq_file_iff.2 ⟨hseat', hnode⟩⟩
      · rw [hopen] at h
        cases h
        cases place with
        | nil => cases hnone
        | cons name dir =>
          have hdirs : SameDirectories d.spent (d.spent.withFile (name :: dir)) :=
            sameDirectories_withFile (by rw [node?_spent, hnone]; exact nofun)
          refine ⟨rfl, (sameDirectories_spent d).trans hdirs, name :: dir,
            locate_eq_file_iff.2 ⟨(seat?_congr hdirs p).symm.trans hseat', ?_⟩⟩
          rw [node?_withFile, if_pos rfl]
          rfl

theorem sameBesides_removeFile (d : Disk) (hslash : p.hasTrailingSlash = false) :
    SameBesides p d (d.removeFile p).2 := by
  have hspent := SameBesides.spent p d
  cases hseat : d.seat? p with
  | none =>
    simp only [removeFile, nextFault_eq, locate_spent]
    cases d.faults.head?.join with
    | some fault => exact hspent
    | none =>
      rcases locate_of_seat?_eq_none hseat with ⟨fault, hlocate⟩ | ⟨place, hlocate⟩ <;>
        simpa only [hlocate] using hspent
  | some place =>
    rcases removeFile_of_seat? hseat hslash with
      ⟨fault, -, hremove⟩ | ⟨id, hnode, hremove⟩ | ⟨-, hremove⟩
    · rw [hremove]
      exact hspent
    · rw [hremove]
      cases place with
      | nil => cases hnode
      | cons name dir =>
        have hseat' : d.spent.seat? p = some (name :: dir) := (seat?_spent d p).trans hseat
        exact hspent.trans (SameBesides.clearNode hseat' hnode)
    · rw [hremove]
      exact hspent

end SqlReplay.Storage.Disk
