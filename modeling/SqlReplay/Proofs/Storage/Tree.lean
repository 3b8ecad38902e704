import Mathlib.Tactic.SplitIfs
import SqlReplay.Storage.Disk

/-!
# What changes of a disk leave alone

Lookups after each elementary change of a disk, and where paths lead.  A path that leads neither to
a directory nor into the void has a seat (`Disk.seat?`): the place of the file it names, or of the
file that it would name.  Seats depend on nothing but the directories (`seat?_congr`), so they stay
when files come and go, and what stands at the seat decides the rest (`locate_of_seat`).
-/

namespace SqlReplay.Storage

/-! ## Association lists -/

section Lists

variable {κ α : Type} [BEq κ] [LawfulBEq κ] [DecidableEq κ]

theorem lookup_filter_key_ne (k j : κ) (l : List (κ × α)) :
    (l.filter fun x => x.1 ≠ k).lookup j = if j = k then none else l.lookup j := by
  induction l with
  | nil => simp only [List.filter_nil, List.lookup_nil, ite_self]
  | cons x rest ih =>
    obtain ⟨i, a⟩ := x
    by_cases hi : i = k
    · have hdrop : ((i, a) :: rest).filter (fun x => x.1 ≠ k) = rest.filter fun x => x.1 ≠ k := by
        simp only [List.filter_cons, ne_eq, hi, not_true_eq_false, decide_false,
          Bool.false_eq_true, if_false]
      rw [hdrop, ih]
      by_cases hj : j = k
      · simp only [hj, if_true]
      · have hb : (j == i) = false := beq_eq_false_iff_ne.2 fun e => hj (e.trans hi)
        simp only [hj, if_false, List.lookup_cons, hb]
    · have hkeep : ((i, a) :: rest).filter (fun x => x.1 ≠ k) =
          (i, a) :: rest.filter fun x => x.1 ≠ k := by
        simp only [List.filter_cons, ne_eq, hi, not_false_eq_true, decide_true, if_true]
      rw [hkeep, List.lookup_cons, ih, List.lookup_cons]
      by_cases hj : j = i
      · have hne : ¬ j = k := fun e => hi (hj.symm.trans e)
        simp only [hj, beq_self_eq_true, hi, if_false]
      · have hb : (j == i) = false := beq_eq_false_iff_ne.2 hj
        simp only [hb]

theorem lookup_replace_key (k j : κ) (a : α) (l : List (κ × α)) :
    ((k, a) :: l.filter fun x => x.1 ≠ k).lookup j = if j = k then some a else l.lookup j := by
  rw [List.lookup_cons, lookup_filter_key_ne]
  by_cases hj : j = k
  · simp only [hj, beq_self_eq_true, if_true]
  · have hb : (j == k) = false := beq_eq_false_iff_ne.2 hj
    simp only [hb, hj, if_false]

end Lists

theorem lookup_eq_none_of_not_mem {κ α : Type} [BEq κ] [LawfulBEq κ] {k : κ} {l : List (κ × α)}
    (h : k ∉ l.map Prod.fst) : l.lookup k = none := by
  rw [List.lookup_eq_none_iff]
  intro x hx
  exact bne_iff_ne.2 fun e => h (List.mem_map.2 ⟨x, hx, e.symm⟩)

namespace Disk

/-! ## Looking after a change -/

theorem node?_setNode (d : Disk) (name : Name) (dir : Location) (node : Node) (place : Location) :
    (d.setNode (name :: dir) node).node? place =
      if place = name :: dir then some node else d.node? place := by
  cases place with
  | nil => rfl
  | cons n rest => exact lookup_replace_key (name :: dir) (n :: rest) node d.nodes

theorem node?_clearNode (d : Disk) (name : Name) (dir : Location) (place : Location) :
    (d.clearNode (name :: dir)).node? place =
      if place = name :: dir then none else d.node? place := by
  cases place with
  | nil => rfl
  | cons n rest => exact lookup_filter_key_ne (name :: dir) (n :: rest) d.nodes

theorem file?_setFile (d : Disk) (id : Id) (file : File) (other : Id) :
    (d.setFile id file).file? other = if other = id then some file else d.file? other :=
  lookup_replace_key id other file d.files

theorem file?_modifyFile (d : Disk) (id : Id) (change : File → File) (other : Id) :
    (d.modifyFile id change).file? other =
      if other = id then (d.file? id).map change else d.file? other := by
  unfold modifyFile
  cases h : d.file? id with
  | none =>
    by_cases e : other = id
    · simp only [e, h, if_true, Option.map_none]
    · simp only [e, if_false]
  | some file => simp only [file?_setFile, Option.map_some]

@[simp] theorem node?_modifyFile (d : Disk) (id : Id) (change : File → File) (place : Location) :
    (d.modifyFile id change).node? place = d.node? place := by
  unfold modifyFile
  cases d.file? id <;> rfl

@[simp] theorem nodes_modifyFile (d : Disk) (id : Id) (change : File → File) :
    (d.modifyFile id change).nodes = d.nodes := by
  unfold modifyFile
  cases d.file? id <;> rfl

@[simp] theorem home_modifyFile (d : Disk) (id : Id) (change : File → File) :
    (d.modifyFile id change).home = d.home := by
  unfold modifyFile
  cases d.file? id <;> rfl

@[simp] theorem nextId_modifyFile (d : Disk) (id : Id) (change : File → File) :
    (d.modifyFile id change).nextId = d.nextId := by
  unfold modifyFile
  cases d.file? id <;> rfl

@[simp] theorem faults_modifyFile (d : Disk) (id : Id) (change : File → File) :
    (d.modifyFile id change).faults = d.faults := by
  unfold modifyFile
  cases d.file? id <;> rfl

theorem node?_ne_directory {d : Disk} {place : Location} {id : Id}
    (h : d.node? place = some (.file id)) : d.node? place ≠ some .directory := by
  rw [h]
  intro heq
  cases heq

/-! ## What files hold -/

/-- What the file with a number holds, nothing if there is none. -/
def contentOf (d : Disk) (id : Id) : Content := ((d.file? id).map File.content).getD (.plain [])

/-- What the file at a place holds, nothing if there is none. -/
def holds (d : Disk) (place : Location) : Content :=
  match d.node? place with
  | some (.file id) => d.contentOf id
  | _ => .plain []

theorem contentOf_congr {d e : Disk} {id : Id} (h : d.file? id = e.file? id) :
    d.contentOf id = e.contentOf id := by
  simp only [contentOf, h]

theorem holds_of_file {d : Disk} {place : Location} {id : Id}
    (h : d.node? place = some (.file id)) : d.holds place = d.contentOf id := by
  simp only [holds, h]

theorem holds_of_none {d : Disk} {place : Location} (h : d.node? place = none) :
    d.holds place = .plain [] := by
  simp only [holds, h]

/-- A change of a file is seen at its own places only. -/
theorem holds_modifyFile {d : Disk} {id : Id} {change : File → File} {place : Location}
    (h : d.node? place ≠ some (.file id)) :
    (d.modifyFile id change).holds place = d.holds place := by
  unfold holds
  rw [node?_modifyFile]
  split
  · rename_i other hnode
    refine contentOf_congr ?_
    rw [file?_modifyFile, if_neg]
    intro e
    exact h (by rw [hnode, e])
  · rfl

/-- Removing a file in which nothing is changes what no place holds. -/
theorem holds_clearNode {d : Disk} {name : Name} {dir place : Location}
    (h : d.holds (name :: dir) = .plain []) :
    (d.clearNode (name :: dir)).holds place = d.holds place := by
  by_cases e : place = name :: dir
  · rw [e, h]
    exact holds_of_none (by rw [node?_clearNode, if_pos rfl])
  · unfold holds
    rw [node?_clearNode, if_neg e]
    rfl

/-! ## Where paths lead -/

theorem walk_congr {d e : Disk} (h : ∀ place, d.node? place = e.node? place) (here : Location)
    (names : List Name) : d.walk here names = e.walk here names := by
  induction names generalizing here with
  | nil => rfl
  | cons name rest ih => simp only [walk, h, ih]

/-- Where paths lead depends on what stands where and on where they begin. -/
theorem locate_congr {d e : Disk} (h : ∀ place, d.node? place = e.node? place)
    (home : d.home = e.home) (p : Path) : d.locate p = e.locate p := by
  simp only [locate, walk_congr h, home]

/-! ## Faults -/

/-- The disk once the fault of the next change, if there is one, has been used up. -/
def spent (d : Disk) : Disk := { d with faults := d.faults.tail }

theorem nextFault_eq (d : Disk) : d.nextFault = (d.faults.head?.join, d.spent) := by
  obtain ⟨nodes, files, nextId, home, faults⟩ := d
  cases faults <;> rfl

@[simp] theorem node?_spent (d : Disk) (place : Location) : d.spent.node? place = d.node? place :=
  rfl

@[simp] theorem file?_spent (d : Disk) (id : Id) : d.spent.file? id = d.file? id := rfl

@[simp] theorem holds_spent (d : Disk) (place : Location) : d.spent.holds place = d.holds place :=
  rfl

@[simp] theorem nextId_spent (d : Disk) : d.spent.nextId = d.nextId := rfl

@[simp] theorem locate_spent (d : Disk) (p : Path) : d.spent.locate p = d.locate p :=
  locate_congr (d := d.spent) (e := d) (fun _ => rfl) rfl p

theorem mem_faults_of_head? {d : Disk} {fault : Fault} (h : d.faults.head?.join = some fault) :
    some fault ∈ d.faults :=
  List.mem_of_mem_head? (Option.join_eq_some_iff.1 h)

/-! ## Numbers -/

/-- No file has a number that is still to be given. -/
structure Numbered (d : Disk) : Prop where
  node_lt : ∀ {place : Location} {id : Id}, d.node? place = some (.file id) → id < d.nextId
  file_lt : ∀ {id : Id} {file : File}, d.file? id = some file → id < d.nextId

/-! ## Seats -/

end Disk

/-- The place of a file that is or could be at a spot. -/
def Spot.seat? : Spot → Option Location
  | .directory _ => none
  | .file place _ => some place
  | .vacant dir name => some (name :: dir)

namespace Disk

/-- Where the file is that a path names or would name. -/
def seat? (d : Disk) (p : Path) : Option Location := (d.locate p).toOption.bind Spot.seat?

/-- Whether two disks have the same directories and paths begin at the same place. -/
structure SameDirectories (d e : Disk) : Prop where
  home : d.home = e.home
  node : ∀ place, d.node? place = some .directory ↔ e.node? place = some .directory

theorem SameDirectories.refl (d : Disk) : SameDirectories d d := ⟨rfl, fun _ => Iff.rfl⟩

theorem SameDirectories.symm {d e : Disk} (h : SameDirectories d e) : SameDirectories e d :=
  ⟨h.home.symm, fun place => (h.node place).symm⟩

theorem SameDirectories.trans {d e f : Disk} (h : SameDirectories d e) (h' : SameDirectories e f) :
    SameDirectories d f :=
  ⟨h.home.trans h'.home, fun place => (h.node place).trans (h'.node place)⟩

theorem walk_seat?_congr {d e : Disk} (h : SameDirectories d e) (here : Location)
    (names : List Name) :
    (d.walk here names).toOption.bind Spot.seat? =
      (e.walk here names).toOption.bind Spot.seat? := by
  induction names generalizing here with
  | nil => rfl
  | cons name rest ih =>
    simp only [walk]
    split
    · exact ih here
    split
    · exact ih here.tail
    split
    · rfl
    have hnode := h.node (name :: here)
    cases hd : d.node? (name :: here) with
    | none =>
      cases he : e.node? (name :: here) with
      | none => rfl
      | some node =>
        cases node with
        | directory => simp [hd, he] at hnode
        | file id => cases rest <;> rfl
    | some node =>
      cases node with
      | directory =>
        rw [hd] at hnode
        simp only [hnode.1 rfl]
        exact ih (name :: here)
      | file id =>
        cases he : e.node? (name :: here) with
        | none => cases rest <;> rfl
        | some node =>
          cases node with
          | directory => simp [hd, he] at hnode
          | file other => cases rest <;> rfl

theorem seat?_congr {d e : Disk} (h : SameDirectories d e) (p : Path) : d.seat? p = e.seat? p := by
  unfold seat? locate
  rw [h.home]
  split_ifs
  · rfl
  · rfl
  · rfl
  · exact walk_seat?_congr h _ _
  · exact walk_seat?_congr h _ _

/-- Whether two disks have the same directories and hold the same wherever none of some paths
leads. -/
structure SameApart (paths : List Path) (d e : Disk) : Prop where
  directories : SameDirectories d e
  holds : ∀ place, (∀ p ∈ paths, d.seat? p ≠ some place) → d.holds place = e.holds place

namespace SameApart

variable {paths : List Path} {d e f : Disk}

theorem trans (h : SameApart paths d e) (h' : SameApart paths e f) : SameApart paths d f where
  directories := h.directories.trans h'.directories
  holds place hplace := by
    rw [h.holds place hplace]
    refine h'.holds place fun p hp => ?_
    rw [← seat?_congr h.directories p]
    exact hplace p hp

theorem symm (h : SameApart paths d e) : SameApart paths e d where
  directories := h.directories.symm
  holds place hplace := by
    refine (h.holds place fun p hp => ?_).symm
    rw [seat?_congr h.directories p]
    exact hplace p hp

/-- It is enough to look at the places where anything stands on either disk. -/
theorem iff_listed : SameApart paths d e ↔ d.home = e.home ∧
    ∀ place ∈ (d.nodes ++ e.nodes).map Prod.fst,
      (d.node? place = some .directory ↔ e.node? place = some .directory) ∧
        ((∀ p ∈ paths, d.seat? p ≠ some place) → d.holds place = e.holds place) := by
  constructor
  · intro h
    exact ⟨h.directories.home, fun place _ => ⟨h.directories.node place, h.holds place⟩⟩
  · rintro ⟨hhome, hlisted⟩
    have hnone : ∀ place ∉ (d.nodes ++ e.nodes).map Prod.fst,
        d.node? place = e.node? place ∧ d.holds place = e.holds place := by
      intro place hplace
      cases place with
      | nil => exact ⟨rfl, rfl⟩
      | cons name dir =>
        rw [List.map_append, List.mem_append, not_or] at hplace
        have hd : d.node? (name :: dir) = none := lookup_eq_none_of_not_mem hplace.1
        have he : e.node? (name :: dir) = none := lookup_eq_none_of_not_mem hplace.2
        exact ⟨hd.trans he.symm, (holds_of_none hd).trans (holds_of_none he).symm⟩
    refine ⟨⟨hhome, fun place => ?_⟩, fun place hapart => ?_⟩
    · by_cases hplace : place ∈ (d.nodes ++ e.nodes).map Prod.fst
      · exact (hlisted place hplace).1
      · rw [(hnone place hplace).1]
    · by_cases hplace : place ∈ (d.nodes ++ e.nodes).map Prod.fst
      · exact (hlisted place hplace).2 hapart
      · exact (hnone place hplace).2

instance : Decidable (SameApart paths d e) := decidable_of_iff _ iff_listed.symm

end SameApart

/-- A walk that ends at a seat found a file there, or nothing. -/
theorem walk_of_seat? {d : Disk} {here : Location} {names : List Name} {place : Location}
    (h : (d.walk here names).toOption.bind Spot.seat? = some place) :
    (∃ id, d.node? place = some (.file id) ∧ d.walk here names = .ok (.file place id)) ∨
      ∃ dir name, place = name :: dir ∧ d.node? place = none ∧
        d.walk here names = .ok (.vacant dir name) := by
  induction names generalizing here with
  | nil => cases h
  | cons name rest ih =>
    simp only [walk] at h ⊢
    split_ifs at h ⊢ with hdot hup hlong hlast
    · exact ih h
    · exact ih h
    · cases h
    · cases hnode : d.node? (name :: here) with
      | none =>
        rw [hnode] at h
        obtain rfl : name :: here = place := Option.some.inj h
        exact Or.inr ⟨here, name, rfl, hnode, rfl⟩
      | some node =>
        rw [hnode] at h
        cases node with
        | directory => exact ih h
        | file id =>
          obtain rfl : name :: here = place := Option.some.inj h
          exact Or.inl ⟨id, hnode, rfl⟩
    · cases hnode : d.node? (name :: here) with
      | none =>
        rw [hnode] at h
        cases h
      | some node =>
        rw [hnode] at h
        cases node with
        | directory => exact ih h
        | file id => cases h

/-- What stands at the seat of a path is what the path leads to. -/
theorem locate_of_seat? {d : Disk} {p : Path} {place : Location} (h : d.seat? p = some place) :
    (∃ id, d.node? place = some (.file id) ∧ d.locate p = .ok (.file place id)) ∨
      ∃ dir name, place = name :: dir ∧ d.node? place = none ∧
        d.locate p = .ok (.vacant dir name) := by
  unfold seat? locate at h
  unfold locate
  split_ifs at h ⊢
  all_goals first | cases h | exact walk_of_seat? h

theorem locate_of_seat?_eq_none {d : Disk} {p : Path} (h : d.seat? p = none) :
    (∃ fault, d.locate p = .error fault) ∨ ∃ place, d.locate p = .ok (.directory place) := by
  unfold seat? at h
  rcases hl : d.locate p with fault | spot
  · exact Or.inl ⟨fault, rfl⟩
  · rw [hl] at h
    cases spot with
    | directory place => exact Or.inr ⟨place, rfl⟩
    | file place id => cases h
    | vacant dir name => cases h

/-! ## Opening and removing -/

/-- The disk with a new empty file at a place. -/
def withFile (d : Disk) (place : Location) : Disk := (d.addFile place (.holding (.plain []))).2

theorem node?_withFile (d : Disk) (name : Name) (dir place : Location) :
    (d.withFile (name :: dir)).node? place =
      if place = name :: dir then some (.file d.nextId) else d.node? place := by
  simp only [withFile, addFile, node?_setNode]
  rfl

theorem file?_withFile (d : Disk) (place : Location) (id : Id) :
    (d.withFile place).file? id =
      if id = d.nextId then some (.holding (.plain [])) else d.file? id :=
  file?_setFile _ _ _ _

@[simp] theorem nextId_withFile (d : Disk) (place : Location) :
    (d.withFile place).nextId = d.nextId + 1 :=
  rfl

/-- A new file holds what was at its place before: nothing. -/
theorem holds_withFile {d : Disk} (hd : d.Numbered) {name : Name} {dir : Location}
    (h : d.node? (name :: dir) = none) (place : Location) :
    (d.withFile (name :: dir)).holds place = d.holds place := by
  by_cases e : place = name :: dir
  · rw [e, holds_of_none h]
    simp only [holds, node?_withFile, if_true, contentOf, file?_withFile]
    rfl
  · unfold holds
    rw [node?_withFile, if_neg e]
    split
    · rename_i id hnode
      refine contentOf_congr ?_
      rw [file?_withFile, if_neg (Nat.ne_of_lt (hd.node_lt hnode))]
    · rfl

/-- Opening at a seat fails by a fault, finds the file there, or makes one. -/
theorem openFile_of_seat? {d : Disk} {p : Path} {place : Location} (h : d.seat? p = some place)
    (hp : p.hasTrailingSlash = false) :
    (∃ fault, some fault ∈ d.faults ∧ d.openFile p = (.error fault, d.spent)) ∨
      (∃ id, d.node? place = some (.file id) ∧ d.openFile p = (.ok id, d.spent)) ∨
      d.node? place = none ∧ d.openFile p = (.ok d.nextId, d.spent.withFile place) := by
  simp only [openFile, nextFault_eq, locate_spent]
  cases hf : d.faults.head?.join with
  | some fault => exact Or.inl ⟨fault, mem_faults_of_head? hf, rfl⟩
  | none =>
    right
    rcases locate_of_seat? h with ⟨id, hnode, hl⟩ | ⟨dir, name, rfl, hnode, hl⟩
    · exact Or.inl ⟨id, hnode, by simp only [hl, hp, Bool.false_eq_true, if_false]⟩
    · exact Or.inr ⟨hnode, by simp only [hl, hp, Bool.false_eq_true, if_false]; rfl⟩

/-- A path without a seat, or with a slash at its end, cannot be opened as a file. -/
theorem openFile_of_no_seat {d : Disk} {p : Path}
    (h : d.seat? p = none ∨ p.hasTrailingSlash = true) :
    ∃ fault, d.openFile p = (.error fault, d.spent) := by
  simp only [openFile, nextFault_eq, locate_spent]
  cases hf : d.faults.head?.join with
  | some fault => exact ⟨fault, rfl⟩
  | none =>
    rcases h with h | h
    · rcases locate_of_seat?_eq_none h with ⟨fault, hl⟩ | ⟨place, hl⟩
      · exact ⟨fault, by simp only [hl]⟩
      · exact ⟨.isDirectory, by simp only [hl]⟩
    · cases hl : d.locate p with
      | error fault => exact ⟨fault, rfl⟩
      | ok spot => cases spot <;> exact ⟨.isDirectory, by simp only [h, if_true]⟩

/-- Removing at a seat fails by a fault, removes the file there, or finds none. -/
theorem removeFile_of_seat? {d : Disk} {p : Path} {place : Location} (h : d.seat? p = some place)
    (hp : p.hasTrailingSlash = false) :
    (∃ fault, some fault ∈ d.faults ∧ d.removeFile p = (.error fault, d.spent)) ∨
      (∃ id, d.node? place = some (.file id) ∧
        d.removeFile p = (.ok (), d.spent.clearNode place)) ∨
      d.node? place = none ∧ d.removeFile p = (.error .missing, d.spent) := by
  simp only [removeFile, nextFault_eq, locate_spent]
  cases hf : d.faults.head?.join with
  | some fault => exact Or.inl ⟨fault, mem_faults_of_head? hf, rfl⟩
  | none =>
    right
    rcases locate_of_seat? h with ⟨id, hnode, hl⟩ | ⟨dir, name, rfl, hnode, hl⟩
    · exact Or.inl ⟨id, hnode, by simp only [hl, hp, Bool.false_eq_true, if_false]⟩
    · exact Or.inr ⟨hnode, by simp only [hl]⟩

/-! ## What keeps the directories -/

/-- The disk on which no fault will strike. -/
def faultless (d : Disk) : Disk := { d with faults := [] }

theorem sameDirectories_faultless (d : Disk) : SameDirectories d d.faultless :=
  ⟨rfl, fun _ => Iff.rfl⟩

theorem sameDirectories_spent (d : Disk) : SameDirectories d d.spent := ⟨rfl, fun _ => Iff.rfl⟩

theorem sameDirectories_modifyFile (d : Disk) (id : Id) (change : File → File) :
    SameDirectories d (d.modifyFile id change) :=
  ⟨(home_modifyFile d id change).symm, fun place => by rw [node?_modifyFile]⟩

theorem sameDirectories_withFile {d : Disk} {name : Name} {dir : Location}
    (h : d.node? (name :: dir) ≠ some .directory) :
    SameDirectories d (d.withFile (name :: dir)) := by
  refine ⟨rfl, fun place => ?_⟩
  rw [node?_withFile]
  by_cases e : place = name :: dir
  · rw [e, if_pos rfl]
    exact iff_of_false h (by simp)
  · rw [if_neg e]

theorem sameDirectories_clearNode {d : Disk} {name : Name} {dir : Location}
    (h : d.node? (name :: dir) ≠ some .directory) :
    SameDirectories d (d.clearNode (name :: dir)) := by
  refine ⟨rfl, fun place => ?_⟩
  rw [node?_clearNode]
  by_cases e : place = name :: dir
  · rw [e, if_pos rfl]
    exact iff_of_false h (by simp)
  · rw [if_neg e]

theorem sameDirectories_setNode_file {d : Disk} {name : Name} {dir : Location} (id : Id)
    (h : d.node? (name :: dir) ≠ some .directory) :
    SameDirectories d (d.setNode (name :: dir) (.file id)) := by
  refine ⟨rfl, fun place => ?_⟩
  rw [node?_setNode]
  by_cases e : place = name :: dir
  · rw [e, if_pos rfl]
    exact iff_of_false h (by simp)
  · rw [if_neg e]

/-! ## What keeps the numbers -/

theorem Numbered.spent {d : Disk} (h : d.Numbered) : d.spent.Numbered := ⟨h.node_lt, h.file_lt⟩

theorem Numbered.modifyFile {d : Disk} (h : d.Numbered) (id : Id) (change : File → File) :
    (d.modifyFile id change).Numbered := by
  constructor
  · intro place other hnode
    rw [node?_modifyFile] at hnode
    rw [nextId_modifyFile]
    exact h.node_lt hnode
  · intro other file hfile
    rw [file?_modifyFile] at hfile
    rw [nextId_modifyFile]
    by_cases e : other = id
    · rw [if_pos e] at hfile
      obtain ⟨f, hf, -⟩ := Option.map_eq_some_iff.1 hfile
      rw [e]
      exact h.file_lt hf
    · rw [if_neg e] at hfile
      exact h.file_lt hfile

theorem Numbered.withFile {d : Disk} (h : d.Numbered) (name : Name) (dir : Location) :
    (d.withFile (name :: dir)).Numbered := by
  constructor
  · intro place id hnode
    rw [node?_withFile] at hnode
    rw [nextId_withFile]
    by_cases e : place = name :: dir
    · rw [if_pos e] at hnode
      cases hnode
      exact Nat.lt_succ_self d.nextId
    · rw [if_neg e] at hnode
      exact Nat.lt_succ_of_lt (h.node_lt hnode)
  · intro id file hfile
    rw [file?_withFile] at hfile
    rw [nextId_withFile]
    by_cases e : id = d.nextId
    · rw [e]
      exact Nat.lt_succ_self d.nextId
    · rw [if_neg e] at hfile
      exact Nat.lt_succ_of_lt (h.file_lt hfile)

theorem Numbered.clearNode {d : Disk} (h : d.Numbered) (name : Name) (dir : Location) :
    (d.clearNode (name :: dir)).Numbered := by
  refine ⟨?_, h.file_lt⟩
  intro place id hnode
  rw [node?_clearNode] at hnode
  by_cases e : place = name :: dir
  · rw [if_pos e] at hnode
    cases hnode
  · rw [if_neg e] at hnode
    exact h.node_lt hnode

end Disk

end SqlReplay.Storage
