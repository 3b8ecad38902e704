import SqlReplay.Proofs.Storage.Prepared

/-!
# Sound disks

On a sound disk everything stands in a directory, every name of a file leads to one, and only the
null device throws away what is written to it.  The disk that everything begins with is sound
(`sound_initial`), and it stays so when directories are made and files are written
(`Sound.makeDirectories`, `Sound.place`).  A file may have several names.

On a sound disk, making directories lets no path lead to a file that it did not lead to before,
unless the path goes back out of a directory that was made (`Grown.locate_back`).
-/

namespace SqlReplay.Storage.Disk

variable {d e f : Disk}

/-- The place of the device that throws away all that is written to it. -/
def nullDevice : Location := [Utf8.ofString "null", Utf8.ofString "dev"]

/-- Whether each name of a file leads to a file. -/
structure Filed (d : Disk) : Prop where
  numbered : d.Numbered
  file : ∀ {place : Location} {id : Id}, d.node? place = some (.file id) →
    ∃ f, d.file? id = some f ∧ (f.discards = true → place = nullDevice)

/-- Whether everything stands in a directory. -/
structure Rooted (d : Disk) : Prop where
  above : ∀ {name : Name} {dir : Location} {node : Node},
    d.node? (name :: dir) = some node → d.node? dir = some .directory

/-- What holds of the disks that come about by making directories and writing files. -/
structure Sound (d : Disk) : Prop where
  filed : d.Filed
  rooted : d.Rooted
  home : d.node? d.home = some .directory

/-! ## Files -/

/-- Whether all is as it was but for what one file holds and how much it can take. -/
structure Rewrites (id : Id) (d e : Disk) : Prop where
  home : e.home = d.home
  nextId : e.nextId = d.nextId
  node : ∀ place, e.node? place = d.node? place
  file : ∀ other, other ≠ id → e.file? other = d.file? other
  kept : (e.file? id).map File.discards = (d.file? id).map File.discards

namespace Rewrites

variable {id : Id}

theorem refl (id : Id) (d : Disk) : Rewrites id d d := ⟨rfl, rfl, fun _ => rfl, fun _ _ => rfl, rfl⟩

theorem spent (id : Id) (d : Disk) : Rewrites id d d.spent :=
  ⟨rfl, rfl, fun _ => rfl, fun _ _ => rfl, rfl⟩

theorem trans (h : Rewrites id d e) (h' : Rewrites id e f) : Rewrites id d f where
  home := h'.home.trans h.home
  nextId := h'.nextId.trans h.nextId
  node place := (h'.node place).trans (h.node place)
  file other hother := (h'.file other hother).trans (h.file other hother)
  kept := h'.kept.trans h.kept

theorem setFile {file new : File} (hfile : d.file? id = some file)
    (hkept : new.discards = file.discards) : Rewrites id d (d.setFile id new) where
  home := rfl
  nextId := rfl
  node _ := rfl
  file other hother := by rw [file?_setFile, if_neg hother]
  kept := by rw [file?_setFile, if_pos rfl, hfile, Option.map_some, Option.map_some, hkept]

theorem setContent (d : Disk) (id : Id) (content : Content) :
    Rewrites id d (d.modifyFile id fun f => { f with content := content }) := by
  unfold modifyFile
  cases hfile : d.file? id with
  | none => exact refl id d
  | some file => exact setFile hfile rfl

theorem file_of_file? (h : Rewrites id d e) {other : Id} {file : File}
    (hfile : d.file? other = some file) :
    ∃ file', e.file? other = some file' ∧ file'.discards = file.discards := by
  by_cases heq : other = id
  · subst heq
    have hkept := h.kept
    rw [hfile, Option.map_some, Option.map_eq_some_iff] at hkept
    exact hkept
  · exact ⟨file, (h.file other heq).trans hfile, rfl⟩

end Rewrites

theorem Filed.rewrites (h : d.Filed) {id : Id} (hr : Rewrites id d e) : e.Filed where
  numbered := by
    constructor
    · intro place other hnode
      rw [hr.node] at hnode
      rw [hr.nextId]
      exact h.numbered.node_lt hnode
    · intro other file hfile
      rw [hr.nextId]
      by_cases heq : other = id
      · subst heq
        have hkept := hr.kept
        rw [hfile, Option.map_some, eq_comm, Option.map_eq_some_iff] at hkept
        obtain ⟨old, hold, -⟩ := hkept
        exact h.numbered.file_lt hold
      · rw [hr.file other heq] at hfile
        exact h.numbered.file_lt hfile
  file hnode := by
    rw [hr.node] at hnode
    obtain ⟨file, hfile, hdiscards⟩ := h.file hnode
    obtain ⟨file', hfile', hkept⟩ := hr.file_of_file? hfile
    exact ⟨file', hfile', fun hdrop => hdiscards (hkept.symm.trans hdrop)⟩

theorem Filed.spent (h : d.Filed) : d.spent.Filed := ⟨h.numbered.spent, h.file⟩

theorem Grown.file_of_node? (g : Grown d e) {place : Location} {id : Id}
    (h : e.node? place = some (.file id)) : d.node? place = some (.file id) := by
  cases hnode : d.node? place with
  | none =>
    rcases g.new place hnode with hnone | hdir
    · rw [hnone] at h
      cases h
    · rw [hdir] at h
      cases h
  | some node =>
    rw [g.keeps place node hnode] at h
    exact h

theorem Filed.grown (h : d.Filed) (g : Grown d e) : e.Filed where
  numbered := g.numbered h.numbered
  file hnode := by
    obtain ⟨f, hfile, hdiscards⟩ := h.file (g.file_of_node? hnode)
    exact ⟨f, (g.file? _).trans hfile, hdiscards⟩

theorem Filed.clearNode (h : d.Filed) (name : Name) (dir : Location) :
    (d.clearNode (name :: dir)).Filed := by
  refine ⟨h.numbered.clearNode name dir, fun {place id} hnode => ?_⟩
  rw [node?_clearNode] at hnode
  split at hnode
  · cases hnode
  · exact h.file hnode

theorem Filed.withFile (h : d.Filed) (name : Name) (dir : Location) :
    (d.withFile (name :: dir)).Filed := by
  refine ⟨h.numbered.withFile name dir, fun {place id} hnode => ?_⟩
  rw [file?_withFile]
  by_cases hid : id = d.nextId
  · rw [if_pos hid]
    exact ⟨_, rfl, fun hdrop => absurd hdrop Bool.false_ne_true⟩
  · rw [node?_withFile] at hnode
    split at hnode
    · cases hnode
      exact absurd rfl hid
    · rw [if_neg hid]
      exact h.file hnode

/-! ## Directories -/

theorem Rooted.congr (h : d.Rooted) (hnode : ∀ place, e.node? place = d.node? place) :
    e.Rooted where
  above hsome := by
    rw [hnode] at hsome ⊢
    exact h.above hsome

/-- Something new in a directory stands in one, and so does all else. -/
theorem Rooted.add (h : d.Rooted) {name : Name} {dir : Location} {new : Node}
    (hdir : d.node? dir = some .directory) (hnone : d.node? (name :: dir) = none)
    (hnode : ∀ place, e.node? place = if place = name :: dir then some new else d.node? place) :
    e.Rooted := by
  have hkeeps : ∀ place, d.node? place = some .directory → e.node? place = some .directory := by
    intro place hplace
    rw [hnode, if_neg, hplace]
    intro heq
    rw [heq, hnone] at hplace
    cases hplace
  constructor
  intro n rest node hsome
  rw [hnode] at hsome
  by_cases heq : n :: rest = name :: dir
  · cases heq
    exact hkeeps dir hdir
  · rw [if_neg heq] at hsome
    exact hkeeps rest (h.above hsome)

/-- A place below which something stands is a directory. -/
theorem Rooted.of_suffix (h : d.Rooted) {place : Location} {node : Node}
    (hnode : d.node? place = some node) {dir : Location} (hsuffix : dir <:+ place)
    (hne : dir ≠ place) : d.node? dir = some .directory := by
  induction place generalizing node with
  | nil => exact absurd (List.suffix_nil.1 hsuffix) hne
  | cons name rest ih =>
    have hrest := h.above hnode
    rcases List.suffix_cons_iff.1 hsuffix with heq | hbelow
    · exact absurd heq hne
    · by_cases hlast : dir = rest
      · rw [hlast, hrest]
      · exact ih hrest hbelow hlast

theorem Rooted.walk_vacant (h : d.Rooted) {here dir : Location} {name : Name}
    {names : List Name} (hhere : d.node? here = some .directory)
    (hwalk : d.walk here names = .ok (.vacant dir name)) : d.node? dir = some .directory := by
  induction names generalizing here with
  | nil => cases hwalk
  | cons first rest ih =>
    simp only [walk] at hwalk
    split_ifs at hwalk with hdot hdots hlong hlast
    · exact ih hhere hwalk
    · refine ih ?_ hwalk
      cases here with
      | nil => rfl
      | cons n above => exact h.above hhere
    · split at hwalk
      · rename_i hnode
        exact ih hnode hwalk
      · cases hwalk
      · cases hwalk
        exact hhere
    · split at hwalk
      · rename_i hnode
        exact ih hnode hwalk
      · cases hwalk
      · cases hwalk

namespace Sound

theorem spent (h : d.Sound) : d.spent.Sound := ⟨h.filed.spent, h.rooted.congr fun _ => rfl, h.home⟩

theorem rewrites (h : d.Sound) {id : Id} (hr : Rewrites id d e) : e.Sound where
  filed := h.filed.rewrites hr
  rooted := h.rooted.congr hr.node
  home := by rw [hr.node, hr.home, h.home]

theorem locate_vacant (h : d.Sound) {p : Path} {dir : Location} {name : Name}
    (hlocate : d.locate p = .ok (.vacant dir name)) :
    d.node? dir = some .directory ∧ d.node? (name :: dir) = none := by
  unfold locate at hlocate
  split_ifs at hlocate with hzero hempty hlong habsolute
  · exact ⟨h.rooted.walk_vacant rfl hlocate, node?_of_walk_vacant hlocate⟩
  · exact ⟨h.rooted.walk_vacant h.home hlocate, node?_of_walk_vacant hlocate⟩

theorem setDirectory (h : d.Sound) {name : Name} {dir : Location}
    (hdir : d.node? dir = some .directory) (hnone : d.node? (name :: dir) = none) :
    (d.setNode (name :: dir) .directory).Sound where
  filed := h.filed.grown (Grown.setNode hnone)
  rooted := h.rooted.add hdir hnone (node?_setNode d name dir .directory)
  home := (Grown.setNode hnone).keeps _ _ h.home

theorem withFile (h : d.Sound) {name : Name} {dir : Location}
    (hdir : d.node? dir = some .directory) (hnone : d.node? (name :: dir) = none) :
    (d.withFile (name :: dir)).Sound where
  filed := h.filed.withFile name dir
  rooted := h.rooted.add hdir hnone (node?_withFile d name dir)
  home := by
    rw [node?_withFile, if_neg]
    · exact h.home
    · intro heq
      have hhome := h.home
      rw [show d.home = name :: dir from heq, hnone] at hhome
      cases hhome

theorem makeDirectory (h : d.Sound) (p : Path) : (d.makeDirectory p).2.Sound := by
  simp only [Disk.makeDirectory, nextFault_eq, locate_spent]
  cases d.faults.head?.join with
  | some fault => exact h.spent
  | none =>
    simp only
    split
    · exact h.spent
    · rename_i dir name hlocate
      obtain ⟨hdir, hnone⟩ := h.locate_vacant hlocate
      exact h.spent.setDirectory hdir hnone
    · exact h.spent

theorem makeDirectories (h : d.Sound) (p : Path) : (d.makeDirectories p).2.Sound :=
  makeDirectoriesWithin_keeps (fun _ q _ hd => hd.makeDirectory q) (p.bytes.length + 1) h

theorem openFile (h : d.Sound) (p : Path) : (d.openFile p).2.Sound := by
  by_cases hslash : p.hasTrailingSlash = true
  · obtain ⟨fault, hopen⟩ := openFile_of_no_seat (d := d) (Or.inr hslash)
    rw [hopen]
    exact h.spent
  rw [Bool.not_eq_true] at hslash
  cases hseat : d.seat? p with
  | none =>
    obtain ⟨fault, hopen⟩ := openFile_of_no_seat (Or.inl hseat)
    rw [hopen]
    exact h.spent
  | some place =>
    rcases openFile_of_seat? hseat hslash with ⟨fault, -, hopen⟩ | ⟨id, -, hopen⟩ | ⟨hnone, hopen⟩
    · rw [hopen]
      exact h.spent
    · rw [hopen]
      exact h.spent
    · rcases locate_of_seat? hseat with ⟨id, hnode, -⟩ | ⟨dir, name, rfl, -, hlocate⟩
      · rw [hnode] at hnone
        cases hnone
      · rw [hopen]
        exact h.spent.withFile (h.locate_vacant hlocate).1 hnone

/-- A sound disk stays sound when files are written on it beforehand. -/
theorem place (h : d.Sound) (p : Path) (bytes : Bytes) : (d.place p bytes).Sound := by
  have hparents : (d.makeParents p).2.Sound :=
    makeParents_keeps (fun _ q _ hd => hd.makeDirectory q) h
  have hopened := hparents.openFile p
  simp only [Disk.place, createFile]
  generalize (d.makeParents p).2.openFile p = got at hopened ⊢
  obtain ⟨result, e⟩ := got
  cases result with
  | error fault => exact hopened
  | ok id =>
    have hemptied := hopened.rewrites (Rewrites.setContent e id (.plain []))
    exact hemptied.rewrites (Rewrites.setContent _ id (.plain bytes))

end Sound

/-! ## The disk to begin with -/

theorem mem_nodes_of_node? {name : Name} {dir : Location} {node : Node}
    (h : d.node? (name :: dir) = some node) : (name :: dir, node) ∈ d.nodes :=
  mem_of_lookup_eq_some h

theorem filed_bare (home : Location) : (bare home).Filed := by
  have hdevice : ∀ {place : Location} {id : Id}, (bare home).node? place = some (.file id) →
      place = [Utf8.ofString "full", Utf8.ofString "dev"] ∧ id = 0 ∨
        place = nullDevice ∧ id = 1 := by
    intro place id hnode
    cases place with
    | nil => cases hnode
    | cons name dir =>
      have hmem := mem_nodes_of_node? hnode
      simpa [bare, nullDevice] using hmem
  refine ⟨numbered_bare home, fun {place id} hnode => ?_⟩
  rcases hdevice hnode with ⟨-, rfl⟩ | ⟨hplace, rfl⟩
  · exact ⟨_, rfl, fun hdrop => absurd hdrop Bool.false_ne_true⟩
  · exact ⟨_, rfl, fun _ => hplace⟩

theorem rooted_bare (home : Location) : (bare home).Rooted := by
  constructor
  intro name dir node hnode
  have hmem := mem_nodes_of_node? hnode
  simp only [bare, List.mem_cons, Prod.mk.injEq, List.cons.injEq, List.not_mem_nil,
    or_false] at hmem
  rcases hmem with ⟨⟨-, rfl⟩, -⟩ | ⟨⟨-, rfl⟩, -⟩ | ⟨⟨-, rfl⟩, -⟩ <;> rfl

theorem sound_initial : initial.Sound := by
  let home : Location := [Utf8.ofString "work"]
  have hnone : (bare home).node? home = none := by decide
  have hhome : ((bare home).setNode home .directory).Sound :=
    ⟨(filed_bare home).grown (Grown.setNode hnone),
      (rooted_bare home).add rfl hnone (node?_setNode _ _ _ _), by decide⟩
  exact hhome.setDirectory rfl (by decide)

/-! ## Paths after directories were made -/

theorem suffix_of_walk {here place : Location} {id : Id} {names : List Name}
    (hup : [Path.dot, Path.dot] ∉ names) (h : d.walk here names = .ok (.file place id)) :
    here <:+ place ∧ here ≠ place := by
  induction names generalizing here with
  | nil => cases h
  | cons name rest ih =>
    obtain ⟨hname, hrest⟩ := not_or.1 (mt List.mem_cons.2 hup)
    have hbelow : ∀ {place : Location}, name :: here <:+ place → here <:+ place ∧ here ≠ place := by
      intro place hsuffix
      refine ⟨(List.suffix_cons name here).trans hsuffix, ?_⟩
      rintro rfl
      have hlength := hsuffix.length_le
      rw [List.length_cons] at hlength
      omega
    simp only [walk, if_neg (Ne.symm hname)] at h
    split_ifs at h with hdot hlong hlast
    · exact ih hrest h
    · split at h
      · exact hbelow (ih hrest h).1
      · cases h
        exact hbelow (List.suffix_refl _)
      · cases h
    · split at h
      · exact hbelow (ih hrest h).1
      · cases h
      · cases h

theorem Grown.walk_back (g : Grown d e) (h : d.Rooted) {here place : Location} {id : Id}
    {names : List Name} (hwalk : e.walk here names = .ok (.file place id)) :
    d.walk here names = .ok (.file place id) ∨
      [Path.dot, Path.dot] ∈ names ∧ d.walk here names = .error .missing := by
  induction names generalizing here with
  | nil => cases hwalk
  | cons name rest ih =>
    have hplace := g.file_of_node? (node?_of_walk_file hwalk)
    simp only [walk] at hwalk ⊢
    split_ifs at hwalk ⊢ with hdot hup hlong hlast
    · exact (ih hwalk).imp_right (And.imp_left (List.mem_cons_of_mem _))
    · exact (ih hwalk).imp_right (And.imp_left (List.mem_cons_of_mem _))
    · obtain rfl := List.isEmpty_iff.1 hlast
      cases hnode : e.node? (name :: here) with
      | none =>
        rw [hnode] at hwalk
        cases hwalk
      | some node =>
        rw [hnode] at hwalk
        cases node with
        | directory => cases hwalk
        | file other =>
          rw [g.file_of_node? hnode]
          exact .inl hwalk
    · cases hnode : d.node? (name :: here) with
      | some node =>
        rw [g.keeps _ _ hnode] at hwalk
        cases node with
        | directory => exact (ih hwalk).imp_right (And.imp_left (List.mem_cons_of_mem _))
        | file other => cases hwalk
      | none =>
        rcases g.new _ hnode with hnew | hnew
        · rw [hnew] at hwalk
          cases hwalk
        · rw [hnew] at hwalk
          -- Without a way back out, the file stood below a directory that was not there yet.
          refine .inr ⟨List.mem_cons_of_mem _ (Decidable.of_not_not fun hmem => ?_), rfl⟩
          obtain ⟨hsuffix, hne⟩ := suffix_of_walk hmem hwalk
          rw [h.of_suffix hplace hsuffix hne] at hnode
          cases hnode

/-- A path that leads to a file once directories were made led there before, unless it goes back out
of a directory that was missing. -/
theorem Grown.locate_back (g : Grown d e) (h : d.Rooted) {p : Path} {place : Location} {id : Id}
    (hlocate : e.locate p = .ok (.file place id)) :
    d.locate p = .ok (.file place id) ∨
      [Path.dot, Path.dot] ∈ p.components ∧ d.locate p = .error .missing := by
  unfold locate at hlocate ⊢
  rw [g.home] at hlocate
  split_ifs at hlocate ⊢ <;> exact g.walk_back h hlocate

end SqlReplay.Storage.Disk
