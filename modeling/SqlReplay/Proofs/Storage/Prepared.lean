import SqlReplay.Proofs.Storage.Making

/-!
# Disks that were prepared

The disk that everything begins with is numbered (`numbered_initial`), and so is any that files were
written to beforehand (`Numbered.place`).
-/

namespace SqlReplay.Storage.Disk

/-! ## Writing files -/

theorem Numbered.openFile {d : Disk} (h : d.Numbered) (p : Path) : (d.openFile p).2.Numbered := by
  by_cases hslash : p.hasTrailingSlash = true
  · obtain ⟨fault, hopen⟩ := openFile_of_no_seat (d := d) (Or.inr hslash)
    rw [hopen]
    exact h.spent
  rw [Bool.not_eq_true] at hslash
  cases hseat : d.seat? p with
  | none =>
    obtain ⟨fault, hopen⟩ := openFile_of_no_seat (Or.inl hseat)
    rw [hopen]
    exact h.spent
  | some place =>
    rcases openFile_of_seat? hseat hslash with ⟨fault, -, hopen⟩ | ⟨id, -, hopen⟩ | ⟨hnode, hopen⟩
    · rw [hopen]
      exact h.spent
    · rw [hopen]
      exact h.spent
    · rw [hopen]
      cases place with
      | nil => cases hnode
      | cons name dir => exact h.spent.withFile name dir

/-- Writing files on a disk beforehand keeps the numbers. -/
theorem Numbered.place {d : Disk} (h : d.Numbered) (p : Path) (bytes : Bytes) :
    (d.place p bytes).Numbered := by
  have hopened := ((makeParents_grown d p).numbered h).openFile p
  simp only [Disk.place, createFile]
  generalize (d.makeParents p).2.openFile p = got at hopened ⊢
  obtain ⟨result, e⟩ := got
  cases result with
  | error fault => exact hopened
  | ok id => exact (hopened.modifyFile id _).modifyFile id _

/-! ## The disk to begin with -/

theorem mem_of_lookup_eq_some {κ α : Type} [BEq κ] [LawfulBEq κ] {l : List (κ × α)} {k : κ}
    {a : α} (h : l.lookup k = some a) : (k, a) ∈ l := by
  obtain ⟨front, back, rfl, -⟩ := List.lookup_eq_some_iff.1 h
  exact List.mem_append_right _ List.mem_cons_self

/-- A disk is numbered if all numbers in its lists are below the next one. -/
theorem numbered_of_all {d : Disk}
    (hnodes : (d.nodes.all fun n => match n.2 with
      | .file id => decide (id < d.nextId)
      | .directory => true) = true)
    (hfiles : (d.files.all fun f => decide (f.1 < d.nextId)) = true) : d.Numbered := by
  constructor
  · intro place id hnode
    cases place with
    | nil => cases hnode
    | cons name dir =>
      have hmem : (name :: dir, Node.file id) ∈ d.nodes := mem_of_lookup_eq_some hnode
      exact of_decide_eq_true (List.all_eq_true.1 hnodes _ hmem)
  · intro id file hfile
    have hmem : (id, file) ∈ d.files := mem_of_lookup_eq_some hfile
    exact of_decide_eq_true (List.all_eq_true.1 hfiles _ hmem)

theorem numbered_bare (home : Location) : (bare home).Numbered := numbered_of_all rfl rfl

theorem numbered_initial : initial.Numbered := by
  unfold initial
  refine Grown.numbered (Grown.setNode ?_) (Grown.numbered (Grown.setNode ?_) (numbered_bare _))
  all_goals decide

end SqlReplay.Storage.Disk
