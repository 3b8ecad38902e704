import SqlReplay.Proofs.Storage.Frame

/-!
# What is spared

A disk is left alone but for some paths (`Disk.Touches`) if names come and go only where some paths
lead, and no file changes but those to which some paths lead.  Removing a file and opening one touch
names only, and such steps compose.  What is read at a path stays as it is, unless one of the paths
leads to the same place or to the same file (`Touches.read_iff`).

A path that leads to no file (`Disk.Lacks`) does so after its file has been removed
(`lacks_removeFile`), whatever else is removed then; opening it makes a new, empty file
(`Lacks.openFile`).
-/

namespace SqlReplay.Storage.Disk

variable {d e f : Disk} {p q : Path} {named written more also : List Path}

/-- Whether a path leads to no file. -/
def Lacks (d : Disk) (p : Path) : Prop := ∀ place id, d.locate p ≠ .ok (.file place id)

/-- Whether names come and go only where some paths lead, and nothing is written but to the files to
which some paths lead. -/
structure Touches (named written : List Path) (d e : Disk) : Prop where
  numbered : d.Numbered → e.Numbered
  faults : e.faults <:+ d.faults
  directories : SameDirectories d e
  nextId : d.nextId ≤ e.nextId
  node : ∀ {place}, (∀ p ∈ named, d.seat? p ≠ some place) → e.node? place = d.node? place
  /-- No file that was there gets another name. -/
  renamed : ∀ {place id}, e.node? place = some (.file id) → id < d.nextId →
    d.node? place = some (.file id)
  content : ∀ {id}, id < d.nextId → (∀ p ∈ written, ∀ place, d.locate p ≠ .ok (.file place id)) →
    (e.file? id).map File.content = (d.file? id).map File.content

namespace Touches

theorem refl (named written : List Path) (d : Disk) : Touches named written d d :=
  ⟨id, List.suffix_refl _, SameDirectories.refl d, Nat.le_refl _, fun _ => rfl, fun h _ => h,
    fun _ _ => rfl⟩

theorem spent (named written : List Path) (d : Disk) : Touches named written d d.spent :=
  ⟨Numbered.spent, List.tail_suffix _, sameDirectories_spent d, Nat.le_refl _, fun _ => rfl,
    fun h _ => h, fun _ _ => rfl⟩

/-- A path that leads to an old file led to it before. -/
theorem locate_back (h : Touches named written d e) {place : Location} {id : Id}
    (hlocate : e.locate p = .ok (.file place id)) (hid : id < d.nextId) :
    d.locate p = .ok (.file place id) := by
  obtain ⟨hseat, hnode⟩ := locate_eq_file_iff.1 hlocate
  rw [← seat?_congr h.directories] at hseat
  exact locate_eq_file_iff.2 ⟨hseat, h.renamed hnode hid⟩

theorem trans (h : Touches named written d e) (h' : Touches named written e f) :
    Touches named written d f where
  numbered := h'.numbered ∘ h.numbered
  faults := h'.faults.trans h.faults
  directories := h.directories.trans h'.directories
  nextId := Nat.le_trans h.nextId h'.nextId
  node {place} hplace := by
    rw [h'.node fun p hp => ?_, h.node hplace]
    rw [← seat?_congr h.directories]
    exact hplace p hp
  renamed hnode hid := h.renamed (h'.renamed hnode (Nat.lt_of_lt_of_le hid h.nextId)) hid
  content {id} hid haway := by
    rw [h'.content (Nat.lt_of_lt_of_le hid h.nextId) fun p hp place hlocate =>
      haway p hp place (h.locate_back hlocate hid), h.content hid haway]

theorem mono (h : Touches named written d e) (hnamed : named ⊆ more) (hwritten : written ⊆ also) :
    Touches more also d e :=
  ⟨h.numbered, h.faults, h.directories, h.nextId,
    fun hplace => h.node fun p hp => hplace p (hnamed hp), h.renamed,
    fun hid haway => h.content hid fun p hp => haway p (hwritten hp)⟩

/-- What is written to new files only leaves the others. -/
theorem of_lacks (h : Touches named written d e) (hlacks : ∀ p ∈ written, d.Lacks p) :
    Touches named [] d e :=
  ⟨h.numbered, h.faults, h.directories, h.nextId, h.node, h.renamed, fun {id} hid _ =>
    h.content hid fun p hp place => hlacks p hp place id⟩

/-- A path leads to the same file as before, unless one of the paths leads to its place. -/
theorem locate_iff (h : Touches named written d e)
    (hq : ∀ place, d.seat? q = some place → ∀ p ∈ named, d.seat? p ≠ some place)
    {place : Location} {id : Id} :
    e.locate q = .ok (.file place id) ↔ d.locate q = .ok (.file place id) := by
  rw [locate_eq_file_iff, locate_eq_file_iff, ← seat?_congr h.directories]
  refine and_congr_right fun hseat => ?_
  rw [h.node (hq place hseat)]

/-- What is read stays as it is where none of the paths leads. -/
theorem read_iff (h : Touches named written d e) (hd : d.Numbered)
    (hq : ∀ place, d.seat? q = some place → ∀ p ∈ named, d.seat? p ≠ some place)
    (hfile : ∀ place id, d.locate q = .ok (.file place id) → ∀ p ∈ written, ∀ other,
      d.locate p ≠ .ok (.file other id)) {content : Content} :
    e.read q = .ok content ↔ d.read q = .ok content := by
  have hsame : ∀ {place id}, d.locate q = .ok (.file place id) →
      (e.file? id).map File.content = (d.file? id).map File.content := fun hlead =>
    h.content (hd.node_lt (locate_eq_file_iff.1 hlead).2) (hfile _ _ hlead)
  rw [read_eq_ok, read_eq_ok]
  refine and_congr_right fun _ => exists_congr fun place => exists_congr fun id => ?_
  constructor
  · rintro ⟨f, hlead, hin, hcontent⟩
    have hlead' := (h.locate_iff hq).1 hlead
    have hf := hsame hlead'
    rw [hin, Option.map_some, eq_comm, Option.map_eq_some_iff] at hf
    obtain ⟨f', hin', hcontent'⟩ := hf
    exact ⟨f', hlead', hin', hcontent'.trans hcontent⟩
  · rintro ⟨f, hlead, hin, hcontent⟩
    have hf := hsame hlead
    rw [hin, Option.map_some, Option.map_eq_some_iff] at hf
    obtain ⟨f', hin', hcontent'⟩ := hf
    exact ⟨f', (h.locate_iff hq).2 hlead, hin', hcontent'.trans hcontent⟩

end Touches

/-! ## Writing -/

/-- Changing what is in a file touches the file only. -/
theorem touches_modifyFile {place : Location} {id : Id} (h : d.locate p = .ok (.file place id))
    (change : File → File) : Touches [] [p] d (d.modifyFile id change) where
  numbered hd := hd.modifyFile id change
  faults := (faults_modifyFile d id change).symm ▸ List.suffix_refl d.faults
  directories := sameDirectories_modifyFile d id change
  nextId := Nat.le_of_eq (nextId_modifyFile d id change).symm
  node _ := node?_modifyFile d id change _
  renamed hnode _ := (node?_modifyFile d id change _).symm.trans hnode
  content {other} _ haway := by
    rw [file?_modifyFile, if_neg]
    rintro rfl
    exact haway p List.mem_cons_self place h

/-- What can be read is the same if the same is read. -/
theorem toOption_read_congr (h : ∀ c, e.read q = .ok c ↔ d.read p = .ok c) :
    (e.read q).toOption = (d.read p).toOption := by
  cases hd : d.read p with
  | ok c => rw [(h c).2 hd]
  | error fault =>
    cases he : e.read q with
    | ok c =>
      rw [(h c).1 he] at hd
      cases hd
    | error fault => rfl

/-! ## Removing -/

/-- Removing fails, for want of a file only if there is none or a fault says so, or takes the file
away. -/
theorem removeFile_cases (d : Disk) (p : Path) :
    (∃ fault, d.removeFile p = (.error fault, d.spent) ∧
      (fault = .missing → some .missing ∈ d.faults ∨ d.Lacks p)) ∨
      ∃ name dir id, d.locate p = .ok (.file (name :: dir) id) ∧
        d.removeFile p = (.ok (), d.spent.clearNode (name :: dir)) := by
  simp only [removeFile, nextFault_eq, locate_spent, Lacks]
  cases hfault : d.faults.head?.join with
  | some fault =>
    refine .inl ⟨fault, rfl, ?_⟩
    rintro rfl
    exact .inl (mem_faults_of_head? hfault)
  | none =>
    rcases hlocate : d.locate p with fault | spot
    · refine .inl ⟨fault, rfl, fun _ => .inr fun _ _ h => ?_⟩
      cases h
    · cases spot with
      | directory place => exact .inl ⟨.isDirectory, rfl, fun h => by cases h⟩
      | vacant dir name =>
        refine .inl ⟨.missing, rfl, fun _ => .inr fun _ _ h => ?_⟩
        cases h
      | file place id =>
        cases p.hasTrailingSlash with
        | true => exact .inl ⟨.notDirectory, rfl, fun h => by cases h⟩
        | false =>
          cases place with
          | nil => cases (locate_eq_file_iff.1 hlocate).2
          | cons name dir => exact .inr ⟨name, dir, id, rfl, rfl⟩

theorem touches_removeFile (d : Disk) (p : Path) : Touches [p] [] d (d.removeFile p).2 := by
  rcases removeFile_cases d p with ⟨fault, hremove, -⟩ | ⟨name, dir, id, hlocate, hremove⟩
  · rw [hremove]
    exact Touches.spent [p] [] d
  · obtain ⟨hseat, hnode⟩ := locate_eq_file_iff.1 hlocate
    rw [hremove]
    refine ⟨fun hd => hd.spent.clearNode name dir, List.tail_suffix _,
      (sameDirectories_spent d).trans (sameDirectories_clearNode (node?_ne_directory hnode)),
      Nat.le_refl _, fun hplace => ?_, fun {place other} hother _ => ?_, fun _ _ => rfl⟩
    · rw [node?_clearNode, if_neg, node?_spent]
      rintro rfl
      exact hplace p List.mem_cons_self hseat
    · rw [node?_clearNode] at hother
      split at hother
      · cases hother
      · exact hother

/-! ## Opening -/

theorem touches_openFile (d : Disk) (p : Path) : Touches [p] [] d (d.openFile p).2 := by
  cases hslash : p.hasTrailingSlash with
  | true =>
    obtain ⟨fault, hopen⟩ := openFile_of_no_seat (d := d) (.inr hslash)
    rw [hopen]
    exact Touches.spent [p] [] d
  | false =>
    cases hseat : d.seat? p with
    | none =>
      obtain ⟨fault, hopen⟩ := openFile_of_no_seat (.inl hseat)
      rw [hopen]
      exact Touches.spent [p] [] d
    | some place =>
      rcases openFile_of_seat? hseat hslash with
        ⟨fault, -, hopen⟩ | ⟨id, -, hopen⟩ | ⟨hnone, hopen⟩
      · rw [hopen]
        exact Touches.spent [p] [] d
      · rw [hopen]
        exact Touches.spent [p] [] d
      · rw [hopen]
        cases place with
        | nil => cases hnone
        | cons name dir =>
          have hfree : d.spent.node? (name :: dir) ≠ some .directory := by
            rw [node?_spent, hnone]
            exact nofun
          refine ⟨fun hd => hd.spent.withFile name dir, List.tail_suffix _,
            (sameDirectories_spent d).trans (sameDirectories_withFile hfree),
            Nat.le_succ d.nextId, fun hplace => ?_, fun {place id} hnode hid => ?_,
            fun hid _ => ?_⟩
          · rw [node?_withFile, if_neg, node?_spent]
            rintro rfl
            exact hplace p List.mem_cons_self hseat
          · rw [node?_withFile] at hnode
            split at hnode
            · cases hnode
              exact absurd hid (Nat.lt_irrefl _)
            · exact hnode
          · exact congrArg _ ((file?_withFile _ _ _).trans (if_neg (Nat.ne_of_lt hid)))

/-! ## Paths that lead to no file -/

/-- Removing what is at another path makes no file. -/
theorem Lacks.removeFile (h : d.Lacks p) (q : Path) : (d.removeFile q).2.Lacks p := by
  intro place id hlocate
  obtain ⟨hseat, hnode⟩ := locate_eq_file_iff.1 hlocate
  rw [← seat?_congr (touches_removeFile d q).directories] at hseat
  refine h place id (locate_eq_file_iff.2 ⟨hseat, ?_⟩)
  rcases removeFile_cases d q with ⟨fault, hremove, -⟩ | ⟨name, dir, other, -, hremove⟩
  · rwa [hremove] at hnode
  · rw [hremove, node?_clearNode] at hnode
    split at hnode
    · cases hnode
    · exact hnode

/-- A file that could be removed is not there. -/
theorem lacks_of_removed (h : (d.removeFile p).1 = .ok ()) : (d.removeFile p).2.Lacks p := by
  rcases removeFile_cases d p with ⟨fault, hremove, -⟩ | ⟨name, dir, id, hgone, hremove⟩
  · rw [hremove] at h
    cases h
  · have hdirs := (touches_removeFile d p).directories
    intro place other hlocate
    obtain ⟨hseat, hnode⟩ := locate_eq_file_iff.1 hlocate
    obtain ⟨hseat', -⟩ := locate_eq_file_iff.1 hgone
    rw [← seat?_congr hdirs, hseat'] at hseat
    cases hseat
    rw [hremove, node?_clearNode, if_pos rfl] at hnode
    cases hnode

/-- No file is left where one is removed, unless a fault strikes. -/
theorem lacks_or_struck (d : Disk) (hslash : p.hasTrailingSlash = false) :
    (d.removeFile p).2.Lacks p ∨
      ∃ fault, d.faults.head?.join = some fault ∧ d.removeFile p = (.error fault, d.spent) := by
  cases hfault : d.faults.head?.join with
  | some fault => exact .inr ⟨fault, rfl, by simp only [removeFile, nextFault_eq, hfault]⟩
  | none =>
    left
    cases hremove : (d.removeFile p).1 with
    | ok _ => exact lacks_of_removed hremove
    | error fault =>
      have hnone : d.Lacks p := by
        intro place id hlocate
        simp only [removeFile, nextFault_eq, hfault, locate_spent, hlocate, hslash,
          Bool.false_eq_true, if_false] at hremove
        cases hremove
      exact hnone.removeFile p

/-- A file that could be removed, or was missing, is not there. -/
theorem lacks_removeFile (hfaults : some Fault.missing ∉ d.faults)
    (h : (d.removeFile p).1 = .ok () ∨ (d.removeFile p).1 = .error .missing) :
    (d.removeFile p).2.Lacks p := by
  rcases h with h | h
  · exact lacks_of_removed h
  · rcases removeFile_cases d p with ⟨fault, hremove, hmissing⟩ | ⟨name, dir, id, -, hremove⟩
    · rw [hremove] at h ⊢
      cases h
      have hlacks := (hmissing rfl).resolve_left hfaults
      intro place id hlocate
      exact hlacks place id ((locate_spent d p).symm.trans hlocate)
    · rw [hremove] at h
      cases h

/-- Removing changes no file, whatever names it has. -/
theorem file?_removeFile (d : Disk) (p : Path) (id : Id) :
    (d.removeFile p).2.file? id = d.file? id := by
  rcases removeFile_cases d p with ⟨fault, hremove, -⟩ | ⟨name, dir, other, -, hremove⟩
  all_goals
    rw [hremove]
    rfl

/-- Opening where no file is makes an empty one. -/
theorem Lacks.openFile {id : Id} (h : d.Lacks p) (hopen : d.openFile p = (.ok id, e)) :
    p.hasTrailingSlash = false ∧ e.file? id = some (.holding (.plain [])) ∧
      ∃ place, e.locate p = .ok (.file place id) := by
  obtain ⟨hslash, -, hlocate⟩ := openFile_eq_ok hopen
  refine ⟨hslash, ?_, hlocate⟩
  cases hseat : d.seat? p with
  | none =>
    obtain ⟨fault, hrefused⟩ := openFile_of_no_seat (.inl hseat)
    rw [hrefused] at hopen
    cases hopen
  | some place =>
    rcases openFile_of_seat? hseat hslash with
      ⟨fault, -, hrefused⟩ | ⟨other, hnode, -⟩ | ⟨-, hmade⟩
    · rw [hrefused] at hopen
      cases hopen
    · exact absurd (locate_eq_file_iff.2 ⟨hseat, hnode⟩) (h place other)
    · rw [hmade] at hopen
      cases hopen
      exact (file?_withFile _ _ _).trans (if_pos rfl)

end SqlReplay.Storage.Disk
