import Mathlib.Logic.Relation
import SqlReplay.Proofs.Storage.Directory

/-!
# Making directories

Making a directory, and those above it, keeps what there is and adds nothing but directories
(`Grown`).  New directories are where the paths above lead (`makeParents_new`), and a directory that
could be made is there (`makeDirectories_eq_ok`).  Disks that differ in some files only still do so
afterwards (`SameApart.makeDirectories`).
-/

namespace SqlReplay.Storage

/-- Whether a path lies under another: leaving out last components leads to it. -/
def Path.Under (p q : Path) : Prop := Relation.TransGen (fun p q => p.parent? = some q) p q

theorem Path.under_of_parent {p parent q : Path} (hparent : p.parent? = some parent)
    (hq : q = parent ∨ parent.Under q) : p.Under q := by
  rcases hq with rfl | hunder
  · exact .single hparent
  · exact .head hparent hunder

namespace Disk

/-! ## What is there before -/

section Found

variable {d e : Disk} {spot : Spot}

/-- What a walk comes upon is found again where nothing was taken away. -/
theorem walk_found (hkeeps : ∀ place node, d.node? place = some node → e.node? place = some node)
    {here : Location} {names : List Name} (hwalk : d.walk here names = .ok spot)
    (hspot : ∀ dir name, spot ≠ .vacant dir name) : e.walk here names = .ok spot := by
  induction names generalizing here with
  | nil => exact hwalk
  | cons name rest ih =>
    simp only [walk] at hwalk ⊢
    split_ifs at hwalk ⊢
    · exact ih hwalk
    · exact ih hwalk
    all_goals
      cases hnode : d.node? (name :: here) with
      | none =>
        rw [hnode] at hwalk
        first
        | cases hwalk
          exact absurd rfl (hspot here name)
        | cases hwalk
      | some node =>
        rw [hnode] at hwalk
        rw [hkeeps _ _ hnode]
        cases node with
        | directory => exact ih hwalk
        | file other => exact hwalk

theorem locate_found (hhome : e.home = d.home)
    (hkeeps : ∀ place node, d.node? place = some node → e.node? place = some node) {p : Path}
    (hlocate : d.locate p = .ok spot) (hspot : ∀ dir name, spot ≠ .vacant dir name) :
    e.locate p = .ok spot := by
  unfold locate at hlocate ⊢
  rw [hhome]
  split_ifs at hlocate ⊢
  all_goals exact walk_found hkeeps hlocate hspot

end Found

/-- Whether a disk has what another has, and possibly more directories and fewer faults to come. -/
structure Grown (d e : Disk) : Prop where
  home : e.home = d.home
  nextId : e.nextId = d.nextId
  file? : ∀ id, e.file? id = d.file? id
  keeps : ∀ place node, d.node? place = some node → e.node? place = some node
  new : ∀ place, d.node? place = none → e.node? place = none ∨ e.node? place = some .directory
  faults : e.faults <:+ d.faults

namespace Grown

variable {d e f : Disk}

theorem refl (d : Disk) : Grown d d :=
  ⟨rfl, rfl, fun _ => rfl, fun _ _ => id, fun _ => Or.inl, List.suffix_refl _⟩

theorem trans (h : Grown d e) (h' : Grown e f) : Grown d f where
  home := h'.home.trans h.home
  nextId := h'.nextId.trans h.nextId
  file? id := (h'.file? id).trans (h.file? id)
  keeps place node hnode := h'.keeps place node (h.keeps place node hnode)
  new place hnode := by
    rcases h.new place hnode with hnone | hdir
    · exact h'.new place hnone
    · exact Or.inr (h'.keeps place _ hdir)
  faults := h'.faults.trans h.faults

theorem spent (d : Disk) : Grown d d.spent :=
  ⟨rfl, rfl, fun _ => rfl, fun _ _ => id, fun _ => Or.inl, List.tail_suffix _⟩

theorem setNode {name : Name} {dir : Location} (h : d.node? (name :: dir) = none) :
    Grown d (d.setNode (name :: dir) .directory) where
  home := rfl
  nextId := rfl
  file? _ := rfl
  keeps place node hnode := by
    rw [node?_setNode, if_neg, hnode]
    intro e
    rw [e, h] at hnode
    cases hnode
  new place hnode := by
    rw [node?_setNode]
    split
    · exact Or.inr rfl
    · exact Or.inl hnode
  faults := List.suffix_refl _

theorem numbered (h : Grown d e) (hd : d.Numbered) : e.Numbered := by
  constructor
  · intro place id hnode
    rw [h.nextId]
    cases hold : d.node? place with
    | none =>
      rcases h.new place hold with hnone | hdir
      · rw [hnone] at hnode
        cases hnode
      · rw [hdir] at hnode
        cases hnode
    | some node =>
      rw [h.keeps place node hold] at hnode
      exact hd.node_lt (hold.trans hnode)
  · intro id file hfile
    rw [h.file?] at hfile
    rw [h.nextId]
    exact hd.file_lt hfile

theorem locate_found (h : Grown d e) {p : Path} {spot : Spot} (hlocate : d.locate p = .ok spot)
    (hspot : ∀ dir name, spot ≠ .vacant dir name) : e.locate p = .ok spot :=
  Disk.locate_found h.home h.keeps hlocate hspot

/-- A file that is there can be read as before. -/
theorem read (h : Grown d e) {p : Path} {content : Content} (hread : d.read p = .ok content) :
    e.read p = .ok content := by
  obtain ⟨hslash, place, id, f, hlocate, hfile, hcontent⟩ := read_eq_ok.1 hread
  exact read_eq_ok.2
    ⟨hslash, place, id, f, h.locate_found hlocate nofun, (h.file? id).trans hfile, hcontent⟩

/-- New directories hold nothing, as what was not there did. -/
theorem holds (h : Grown d e) (place : Location) : e.holds place = d.holds place := by
  unfold Disk.holds
  cases hnode : d.node? place with
  | none => rcases h.new place hnode with hnew | hnew <;> rw [hnew]
  | some node =>
    rw [h.keeps place node hnode]
    cases node with
    | directory => rfl
    | file id => exact contentOf_congr (h.file? id)

theorem walk_seat? (h : Grown d e) {here place : Location} {names : List Name}
    (hseat : (d.walk here names).toOption.bind Spot.seat? = some place)
    (hnode : e.node? place ≠ some .directory) :
    (e.walk here names).toOption.bind Spot.seat? = some place := by
  induction names generalizing here with
  | nil => cases hseat
  | cons name rest ih =>
    simp only [walk] at hseat ⊢
    split_ifs at hseat ⊢ with hdot hdots hlong hlast
    · exact ih hseat
    · exact ih hseat
    · cases hseat
    all_goals
      cases hfound : d.node? (name :: here) with
      | some node =>
        rw [hfound] at hseat
        rw [h.keeps _ _ hfound]
        cases node with
        | directory => exact ih hseat
        | file id => exact hseat
      | none =>
        rw [hfound] at hseat
        first
        | cases hseat
          rw [(h.new _ hfound).resolve_right hnode]
          rfl
        | cases hseat

/-- A path names the same file as before, unless it names a directory now. -/
theorem seat? (h : Grown d e) {p : Path} {place : Location} (hseat : d.seat? p = some place)
    (hnode : e.node? place ≠ some .directory) : e.seat? p = some place := by
  unfold Disk.seat? locate at hseat ⊢
  rw [h.home]
  split_ifs at hseat ⊢
  all_goals first | cases hseat | exact h.walk_seat? hseat hnode

end Grown

theorem node?_of_walk_vacant {d : Disk} {here dir : Location} {name : Name} {names : List Name}
    (h : d.walk here names = .ok (.vacant dir name)) : d.node? (name :: dir) = none := by
  have hseat : (d.walk here names).toOption.bind Spot.seat? = some (name :: dir) := by
    rw [h]
    rfl
  rcases walk_of_seat? hseat with ⟨id, -, hfile⟩ | ⟨dir', name', -, hnode, -⟩
  · rw [h] at hfile
    cases hfile
  · exact hnode

/-- Where nothing was, there is a directory once one has been made. -/
theorem walk_setNode {d : Disk} {here dir : Location} {name : Name} {names : List Name}
    (h : d.walk here names = .ok (.vacant dir name)) :
    (d.setNode (name :: dir) .directory).walk here names = .ok (.directory (name :: dir)) := by
  have hgrown := Grown.setNode (node?_of_walk_vacant h)
  induction names generalizing here with
  | nil => cases h
  | cons first rest ih =>
    simp only [walk] at h ⊢
    split_ifs at h ⊢ with hdot hdots hlong hlast
    · exact ih h
    · exact ih h
    all_goals
      cases hnode : d.node? (first :: here) with
      | some node =>
        rw [hnode] at h
        rw [hgrown.keeps _ _ hnode]
        cases node with
        | directory => exact ih h
        | file id => cases h
      | none =>
        rw [hnode] at h
        first
        | cases h
          rw [node?_setNode, if_pos rfl, List.isEmpty_iff.1 hlast]
          rfl
        | cases h

theorem locate_setNode {d : Disk} {p : Path} {dir : Location} {name : Name}
    (h : d.locate p = .ok (.vacant dir name)) :
    (d.setNode (name :: dir) .directory).locate p = .ok (.directory (name :: dir)) := by
  have hhome : (d.setNode (name :: dir) .directory).home = d.home := rfl
  unfold locate at h ⊢
  rw [hhome]
  split_ifs at h ⊢
  all_goals exact walk_setNode h

theorem makeDirectory_grown (d : Disk) (p : Path) : Grown d (d.makeDirectory p).2 := by
  simp only [makeDirectory, nextFault_eq, locate_spent]
  cases d.faults.head?.join with
  | some fault => exact Grown.spent d
  | none =>
    simp only
    split
    · exact Grown.spent d
    · rename_i dir name hlocate
      refine (Grown.spent d).trans (Grown.setNode ?_)
      have hseat : d.seat? p = some (name :: dir) := by
        rw [seat?, hlocate]
        rfl
      rcases locate_of_seat? hseat with ⟨id, -, hfile⟩ | ⟨dir', name', -, hnode, -⟩
      · rw [hlocate] at hfile
        cases hfile
      · exact hnode
    · exact Grown.spent d

theorem makeDirectory_enters {d : Disk} {p : Path} (h : (d.makeDirectory p).1 = .ok ()) :
    ∃ place, (d.makeDirectory p).2.Enters p place := by
  simp only [makeDirectory, nextFault_eq, locate_spent] at h ⊢
  cases hfault : d.faults.head?.join with
  | some fault => simp only [hfault, reduceCtorEq] at h
  | none =>
    simp only [hfault] at h ⊢
    cases hlocate : d.locate p with
    | error fault => simp only [hlocate, reduceCtorEq] at h
    | ok spot =>
      cases spot with
      | directory place => simp only [hlocate, reduceCtorEq] at h
      | file place id => simp only [hlocate, reduceCtorEq] at h
      | vacant dir name =>
        rw [← locate_spent] at hlocate
        exact ⟨name :: dir, Or.inr (locate_setNode hlocate)⟩

theorem hasDirectory_eq_true {d : Disk} {p : Path} (h : d.hasDirectory p = true) :
    ∃ place, d.locate p = .ok (.directory place) := by
  simp only [hasDirectory, find] at h
  cases hlocate : d.locate p with
  | error fault => simp [hlocate] at h
  | ok spot =>
    cases spot with
    | directory place => exact ⟨place, rfl⟩
    | vacant dir name => simp [hlocate] at h
    | file place id =>
      cases hslash : p.hasTrailingSlash <;> simp [hlocate, hslash] at h

/-- What making one directory keeps is kept when those above it are made as well. -/
theorem makeDirectoriesWithin_keeps {P : Disk → Prop}
    {p : Path} (step : ∀ (d : Disk) (q : Path), q = p ∨ p.Under q → P d → P (d.makeDirectory q).2)
    (fuel : Nat) {d : Disk} (h : P d) : P (makeDirectoriesWithin p fuel d).2 := by
  induction fuel generalizing p d with
  | zero => exact h
  | succ fuel ih =>
    have hfirst := step d p (Or.inl rfl) h
    rw [makeDirectoriesWithin]
    split
    · exact h
    generalize d.makeDirectory p = got at hfirst ⊢
    obtain ⟨result, e⟩ := got
    cases result with
    | ok _ => exact hfirst
    | error fault =>
      simp only
      split
      · cases habove : p.parent? with
        | none => exact hfirst
        | some parent =>
          have hparent := ih
            (fun d q hq => step d q (Or.inr (Path.under_of_parent habove hq))) hfirst
          simp only
          generalize makeDirectoriesWithin parent fuel e = got at hparent ⊢
          obtain ⟨result, f⟩ := got
          cases result with
          | error fault => exact hparent
          | ok _ =>
            have hagain := step f p (Or.inl rfl) hparent
            simp only
            generalize f.makeDirectory p = got at hagain ⊢
            obtain ⟨result, g⟩ := got
            cases result with
            | ok _ => exact hagain
            | error fault =>
              simp only
              split <;> exact hagain
      · split <;> exact hfirst

theorem makeParents_keeps {P : Disk → Prop} {p : Path}
    (step : ∀ (d : Disk) (q : Path), p.Under q → P d → P (d.makeDirectory q).2) {d : Disk}
    (h : P d) : P (d.makeParents p).2 := by
  unfold makeParents
  cases habove : p.parent? with
  | none => exact h
  | some parent =>
    have hmade := makeDirectoriesWithin_keeps
      (fun d q hq => step d q (Path.under_of_parent habove hq)) (parent.bytes.length + 1) h
    simp only [makeDirectories]
    generalize makeDirectoriesWithin parent (parent.bytes.length + 1) d = got at hmade ⊢
    obtain ⟨result, e⟩ := got
    cases result <;> exact hmade

theorem makeDirectoriesWithin_grown (p : Path) (fuel : Nat) (d : Disk) :
    Grown d (makeDirectoriesWithin p fuel d).2 :=
  makeDirectoriesWithin_keeps (fun e q _ h => h.trans (makeDirectory_grown e q)) fuel
    (Grown.refl d)

theorem makeParents_grown (d : Disk) (p : Path) : Grown d (d.makeParents p).2 :=
  makeParents_keeps (fun e q _ h => h.trans (makeDirectory_grown e q)) (Grown.refl d)

/-- A directory that is new is where the path leads. -/
theorem makeDirectory_new {d : Disk} {p : Path} {place : Location} (hnew : d.node? place = none)
    (hdir : (d.makeDirectory p).2.node? place ≠ none) :
    (d.makeDirectory p).2.locate p = .ok (.directory place) := by
  simp only [makeDirectory, nextFault_eq, locate_spent] at hdir ⊢
  cases hfault : d.faults.head?.join with
  | some fault =>
    simp only [hfault] at hdir
    exact absurd hnew hdir
  | none =>
    simp only [hfault] at hdir ⊢
    rcases hlocate : d.locate p with fault | place' | ⟨place', id⟩ | ⟨dir, name⟩
    · simp only [hlocate] at hdir
      exact absurd hnew hdir
    · simp only [hlocate] at hdir
      exact absurd hnew hdir
    · simp only [hlocate] at hdir
      exact absurd hnew hdir
    · simp only [hlocate, node?_setNode] at hdir ⊢
      by_cases hplace : place = name :: dir
      · rw [hplace]
        rw [← locate_spent] at hlocate
        exact locate_setNode hlocate
      · rw [if_neg hplace] at hdir
        exact absurd hnew hdir

/-- Directories that are new are where the paths above lead. -/
theorem makeParents_new {d : Disk} {p : Path} {place : Location} (hnew : d.node? place = none)
    (hdir : (d.makeParents p).2.node? place ≠ none) :
    ∃ q, p.Under q ∧ (d.makeParents p).2.locate q = .ok (.directory place) := by
  refine makeParents_keeps
    (P := fun e => e.node? place ≠ none → ∃ q, p.Under q ∧ e.locate q = .ok (.directory place))
    (fun e q hunder he hdir => ?_) (fun hdir => absurd hnew hdir) hdir
  by_cases hold : e.node? place = none
  · exact ⟨q, hunder, makeDirectory_new hold hdir⟩
  · obtain ⟨r, hunder, hlocate⟩ := he hold
    exact ⟨r, hunder, (makeDirectory_grown e q).locate_found hlocate nofun⟩

/-- Whether making a directory leaves one, made or found. -/
def MadeAt (p : Path) (d e : Disk) : Prop :=
  e = (d.makeDirectory p).2 ∧ ((d.makeDirectory p).1 = .ok () ∨ e.hasDirectory p = true)

theorem MadeAt.enters {p : Path} {d e : Disk} (h : MadeAt p d e) : ∃ place, e.Enters p place := by
  obtain ⟨rfl, hmade | hdir⟩ := h
  · exact makeDirectory_enters hmade
  · obtain ⟨place, hlocate⟩ := hasDirectory_eq_true hdir
    exact ⟨place, Or.inr hlocate⟩

/-- How a directory comes to be there: paths begin there, it is made or found, or the one above it
comes to be there first. -/
theorem makeDirectoriesWithin_eq_ok {p : Path} {fuel : Nat} {d d' : Disk}
    (h : makeDirectoriesWithin p (fuel + 1) d = (.ok (), d')) :
    p.isEmpty = true ∧ d' = d ∨
      p.isEmpty = false ∧ (MadeAt p d d' ∨
        ∃ parent e f, d.makeDirectory p = (.error .missing, e) ∧ p.parent? = some parent ∧
          makeDirectoriesWithin parent fuel e = (.ok (), f) ∧ MadeAt p f d') := by
  rw [makeDirectoriesWithin] at h
  by_cases hempty : p.isEmpty = true
  · rw [if_pos hempty] at h
    cases h
    exact Or.inl ⟨hempty, rfl⟩
  rw [if_neg hempty] at h
  refine Or.inr ⟨Bool.not_eq_true _ ▸ hempty, ?_⟩
  rcases hfirst : d.makeDirectory p with ⟨fault | _, e⟩
  · rw [hfirst] at h
    by_cases hmissing : fault = .missing
    · simp only [if_pos hmissing] at h
      cases hparent : p.parent? with
      | none => simp only [hparent, Prod.mk.injEq, reduceCtorEq, false_and] at h
      | some parent =>
        rcases habove : makeDirectoriesWithin parent fuel e with ⟨fault' | _, f⟩
        · simp only [hparent, habove, Prod.mk.injEq, reduceCtorEq, false_and] at h
        · simp only [hparent, habove] at h
          refine Or.inr ⟨parent, e, f, by rw [hmissing], rfl, habove, ?_⟩
          rcases hagain : f.makeDirectory p with ⟨fault' | _, g⟩
          · simp only [hagain] at h
            split at h
            · rename_i hdir
              cases h
              exact ⟨by rw [hagain], Or.inr hdir⟩
            · cases h
          · simp only [hagain] at h
            cases h
            exact ⟨by rw [hagain], Or.inl (by rw [hagain])⟩
    · simp only [if_neg hmissing] at h
      split at h
      · rename_i hdir
        cases h
        exact Or.inl ⟨by rw [hfirst], Or.inr hdir⟩
      · cases h
  · rw [hfirst] at h
    cases h
    exact Or.inl ⟨by rw [hfirst], Or.inl (by rw [hfirst])⟩

theorem makeDirectoriesWithin_enters {p : Path} {fuel : Nat} {d d' : Disk}
    (h : makeDirectoriesWithin p fuel d = (.ok (), d')) : ∃ place, d'.Enters p place := by
  cases fuel with
  | zero => cases h
  | succ fuel =>
    rcases makeDirectoriesWithin_eq_ok h with
      ⟨hempty, rfl⟩ | ⟨-, hmade | ⟨_, _, _, -, -, -, hmade⟩⟩
    · exact ⟨d'.home, Or.inl ⟨hempty, rfl⟩⟩
    · exact hmade.enters
    · exact hmade.enters

/-- A directory that could be made is there, and what was there before is there still. -/
theorem makeDirectories_eq_ok {d e : Disk} {p : Path} (h : d.makeDirectories p = (.ok (), e)) :
    Grown d e ∧ ∃ place, e.Enters p place := by
  have hgrown := makeDirectoriesWithin_grown p (p.bytes.length + 1) d
  unfold makeDirectories at h
  rw [h] at hgrown
  exact ⟨hgrown, makeDirectoriesWithin_enters h⟩

/-- Making a directory that is there changes nothing. -/
theorem makeDirectories_of_enters {d : Disk} {p : Path} {place : Location}
    (hfaults : d.faults = []) (h : d.Enters p place) : d.makeDirectories p = (.ok (), d) := by
  unfold makeDirectories
  rw [makeDirectoriesWithin]
  rcases h with ⟨hempty, -⟩ | hlocate
  · rw [if_pos hempty]
  · have hmake : d.makeDirectory p = (.error .present, d) := by
      simp only [makeDirectory, nextFault, hfaults, hlocate]
    have hdir : d.hasDirectory p = true := by simp only [hasDirectory, find, hlocate]
    have hpresent : ¬ Fault.present = Fault.missing := by decide
    simp only [hmake, if_neg hpresent, hdir, if_true, ite_self]

/-! ## Disks that are alike -/

section Alike

variable {d e d' e' : Disk} {p : Path}

theorem SameDirectories.setNode (h : SameDirectories d e) (name : Name) (dir : Location) :
    SameDirectories (d.setNode (name :: dir) .directory)
      (e.setNode (name :: dir) .directory) where
  home := h.home
  node place := by
    rw [node?_setNode, node?_setNode]
    split
    · exact Iff.rfl
    · exact h.node place

theorem MadeAt.of_seat {place : Location} (hfaults : d.faults = [])
    (hseat : d.seat? p = some place) (h : MadeAt p d d') :
    ∃ name dir, place = name :: dir ∧ d' = d.setNode (name :: dir) .directory := by
  obtain ⟨rfl, hmade⟩ := h
  rcases locate_of_seat? hseat with ⟨id, -, hlocate⟩ | ⟨dir, name, rfl, -, hlocate⟩
  · have hmake : d.makeDirectory p = (.error .present, d) := by
      simp only [makeDirectory, nextFault, hfaults, hlocate]
    rw [hmake] at hmade
    rcases hmade with hmade | hmade
    · cases hmade
    · obtain ⟨place, hlocate'⟩ := hasDirectory_eq_true hmade
      rw [hlocate] at hlocate'
      cases hlocate'
  · exact ⟨name, dir, rfl, by simp only [makeDirectory, nextFault, hfaults, hlocate]⟩

theorem makeDirectory_of_no_seat (hfaults : d.faults = []) (hseat : d.seat? p = none) :
    ∃ fault, d.makeDirectory p = (.error fault, d) := by
  rcases locate_of_seat?_eq_none hseat with ⟨fault, hlocate⟩ | ⟨place, hlocate⟩
  · exact ⟨fault, by simp only [makeDirectory, nextFault, hfaults, hlocate]⟩
  · exact ⟨.present, by simp only [makeDirectory, nextFault, hfaults, hlocate]⟩

/-- Disks with the same directories have them still once one more has been made on each. -/
theorem MadeAt.congr (hd : d.faults = []) (he : e.faults = []) (h : SameDirectories d e)
    (hmade : MadeAt p d d') (hmade' : MadeAt p e e') : SameDirectories d' e' := by
  cases hseat : d.seat? p with
  | none =>
    obtain ⟨fault, hmake⟩ := makeDirectory_of_no_seat hd hseat
    obtain ⟨fault', hmake'⟩ := makeDirectory_of_no_seat he ((seat?_congr h p).symm.trans hseat)
    rw [hmade.1, hmade'.1, hmake, hmake']
    exact h
  | some place =>
    obtain ⟨name, dir, rfl, rfl⟩ := hmade.of_seat hd hseat
    obtain ⟨name', dir', hplace, rfl⟩ :=
      hmade'.of_seat he ((seat?_congr h p).symm.trans hseat)
    cases hplace
    exact h.setNode name dir

theorem makeDirectory_eq_error {fault : Fault} (hfaults : d.faults = [])
    (h : d.makeDirectory p = (.error fault, d')) :
    d' = d ∧ (fault = .missing → d.locate p = .error .missing) := by
  simp only [makeDirectory, nextFault, hfaults] at h
  rcases hlocate : d.locate p with fault' | spot
  · rw [hlocate] at h
    cases h
    exact ⟨rfl, fun hmissing => congrArg _ hmissing⟩
  · rw [hlocate] at h
    cases spot with
    | vacant dir name => cases h
    | directory place =>
      cases h
      exact ⟨rfl, nofun⟩
    | file place id =>
      cases h
      exact ⟨rfl, nofun⟩

/-- A directory above which one is missing cannot be made at once on such a disk either. -/
theorem MadeAt.ne_missing (hd : d.faults = []) (h : SameDirectories d e)
    (hmade : MadeAt p d d') : e.locate p ≠ .error .missing := by
  intro hmissing
  have hseat : d.seat? p = none := by
    rw [seat?_congr h, seat?, hmissing]
    rfl
  obtain ⟨fault, hmake⟩ := makeDirectory_of_no_seat hd hseat
  obtain ⟨rfl, hmade | hdir⟩ := hmade
  · rw [hmake] at hmade
    cases hmade
  · rw [hmake] at hdir
    obtain ⟨place, hlocate⟩ := hasDirectory_eq_true hdir
    rw [locate_directory_congr h hlocate] at hmissing
    cases hmissing

theorem makeDirectoriesWithin_congr {fuel : Nat} (hd : d.faults = []) (he : e.faults = [])
    (h : SameDirectories d e) (hmade : makeDirectoriesWithin p fuel d = (.ok (), d'))
    (hmade' : makeDirectoriesWithin p fuel e = (.ok (), e')) : SameDirectories d' e' := by
  induction fuel generalizing p d e d' e' with
  | zero => cases hmade
  | succ fuel ih =>
    rcases makeDirectoriesWithin_eq_ok hmade with ⟨hempty, rfl⟩ | ⟨hfull, hway⟩
    · rcases makeDirectoriesWithin_eq_ok hmade' with ⟨-, rfl⟩ | ⟨hfull, -⟩
      · exact h
      · rw [hempty] at hfull
        cases hfull
    rcases makeDirectoriesWithin_eq_ok hmade' with ⟨hempty, -⟩ | ⟨-, hway'⟩
    · rw [hfull] at hempty
      cases hempty
    -- On disks with the same directories both take the same way: the mixed cases cannot be.
    rcases hway with hat | ⟨parent, d₁, d₂, hmissing, hparent, habove, hat⟩
    all_goals
      rcases hway' with hat' | ⟨parent', e₁, e₂, hmissing', hparent', habove', hat'⟩
    · exact hat.congr hd he h hat'
    · exact absurd ((makeDirectory_eq_error he hmissing').2 rfl) (hat.ne_missing hd h)
    · exact absurd ((makeDirectory_eq_error hd hmissing).2 rfl) (hat'.ne_missing he h.symm)
    · obtain ⟨rfl, -⟩ := makeDirectory_eq_error hd hmissing
      obtain ⟨rfl, -⟩ := makeDirectory_eq_error he hmissing'
      rw [hparent] at hparent'
      cases hparent'
      have hgrown := makeDirectoriesWithin_grown parent fuel d₁
      have hgrown' := makeDirectoriesWithin_grown parent fuel e₁
      rw [habove] at hgrown
      rw [habove'] at hgrown'
      exact hat.congr (List.suffix_nil.1 (hd ▸ hgrown.faults))
        (List.suffix_nil.1 (he ▸ hgrown'.faults)) (ih hd he h habove habove') hat'

/-- Disks that differ in some files only do so once a directory has been made on each. -/
theorem SameApart.makeDirectories {paths : List Path} (h : SameApart paths d e)
    (hd : d.faults = []) (he : e.faults = []) (hmade : d.makeDirectories p = (.ok (), d'))
    (hmade' : e.makeDirectories p = (.ok (), e')) : SameApart paths d' e' := by
  obtain ⟨hgrown, -⟩ := makeDirectories_eq_ok hmade
  obtain ⟨hgrown', -⟩ := makeDirectories_eq_ok hmade'
  have hdirs := makeDirectoriesWithin_congr hd he h.directories hmade hmade'
  refine ⟨hdirs, fun place hplace => ?_⟩
  by_cases hnode : d'.node? place = some .directory
  · simp only [Disk.holds, hnode, (hdirs.node place).1 hnode]
  · rw [hgrown.holds, hgrown'.holds]
    exact h.holds place fun q hq hseat => hplace q hq (hgrown.seat? hseat hnode)

end Alike

end Disk

end SqlReplay.Storage
