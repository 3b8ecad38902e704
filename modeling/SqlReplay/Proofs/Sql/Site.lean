import SqlReplay.Proofs.Sql.Solo
import SqlReplay.Proofs.Storage.Tree

/-!
# The site of a session

A session is alone with its file if the file stands at one place only and nobody else holds a lock
on it.  The site of such a session (`Site`) tells where the file and its journal stand and what the
disk was like when the session began.  A disk keeps the site (`Site.Kept`) while it has the same
directories and, apart from the file itself, the same content at every place; the session makes and
removes nothing but empty files.
-/

namespace SqlReplay.Sql

open Storage

/-! ## Sites -/

/-- Where a session is that is alone with its file. -/
structure Site where
  /-- The disk when the session began. -/
  origin : Disk
  path : Path
  /-- The number of the session. -/
  session : Id
  file : Id
  /-- The place of the file. -/
  main : Location
  /-- The place of the journal. -/
  beside : Location
  seat_path : origin.seat? path = some main
  seat_journal : origin.seat? (path.withSuffix "-journal") = some beside
  beside_ne : beside ≠ main
  path_slash : path.hasTrailingSlash = false
  journal_slash : (path.withSuffix "-journal").hasTrailingSlash = false
  journal_empty : origin.holds beside = .plain []

theorem committed_eq (d : Disk) (id : Id) :
    Session.committed d id = Session.databaseOf (d.contentOf id) := by
  unfold Session.committed Disk.contentOf
  cases d.file? id <;> rfl

theorem committed_congr {d e : Disk} {id : Id} (h : d.file? id = e.file? id) :
    Session.committed d id = Session.committed e id := by
  simp only [Session.committed, h]

/-- What a file has in it that holds a database, or nothing yet. -/
def contentOf : Option Database → Content
  | none => .plain []
  | some db => .database db

theorem databaseOf_contentOf (stored : Option Database) :
    Session.databaseOf (contentOf stored) = .ok (stored.getD .empty) := by
  cases stored <;> rfl

namespace Site

/-- What is found at a file that is to be attached. -/
def offer (w : Site) (file : String) : Offer :=
  let p := Path.ofString file
  if p.hasTrailingSlash then .refused
  else match w.origin.seat? p with
    | none => .refused
    | some place =>
      if place = w.main then .own else .other (Session.databaseOf (w.origin.holds place))

/-- Whether a disk has the site as it was left, with the given database in the file, if any. -/
structure Kept (w : Site) (stored : Option Database) (d : Disk) : Prop where
  numbered : d.Numbered
  directories : w.origin.SameDirectories d
  /-- The file stands at its place. -/
  here : d.node? w.main = some (.file w.file)
  /-- The file stands nowhere else. -/
  sole : ∀ place, d.node? place = some (.file w.file) → place = w.main
  /-- The file holds the database, and nobody but the session has a lock on it. -/
  file : ∃ f, d.file? w.file = some f ∧ f.content = contentOf stored ∧
    ∀ l ∈ f.locks, l.1 = w.session
  elsewhere : ∀ place, place ≠ w.main → d.holds place = w.origin.holds place
  /-- No fault is to come that was not to come from the beginning. -/
  faults : d.faults <:+ w.origin.faults

/-- Whether a session is the one of the site. -/
structure Serves (w : Site) (s : Session) : Prop where
  id : s.id = w.session
  file : s.file = w.file
  path : s.path = w.path

/-- Whether the files other than that of the site are the same, apart from new ones. -/
structure Older (w : Site) (d e : Disk) : Prop where
  nextId_le : d.nextId ≤ e.nextId
  file? : ∀ id, id < d.nextId → id ≠ w.file → e.file? id = d.file? id

theorem Older.refl (w : Site) (d : Disk) : w.Older d d := ⟨Nat.le_refl _, fun _ _ _ => rfl⟩

theorem Older.trans {w : Site} {d e f : Disk} (h : w.Older d e) (h' : w.Older e f) :
    w.Older d f :=
  ⟨Nat.le_trans h.nextId_le h'.nextId_le, fun id hid hne =>
    (h'.file? id (Nat.lt_of_lt_of_le hid h.nextId_le) hne).trans (h.file? id hid hne)⟩

theorem older_spent (w : Site) (d : Disk) : w.Older d d.spent :=
  ⟨Nat.le_refl _, fun _ _ _ => rfl⟩

theorem older_clearNode (w : Site) (d : Disk) (place : Location) :
    w.Older d (d.clearNode place) :=
  ⟨Nat.le_refl _, fun _ _ _ => rfl⟩

theorem older_withFile (w : Site) (d : Disk) (place : Location) : w.Older d (d.withFile place) := by
  refine ⟨Nat.le_succ d.nextId, fun id hid _ => ?_⟩
  rw [Disk.file?_withFile, if_neg (Nat.ne_of_lt hid)]

theorem older_modifyFile (w : Site) (d : Disk) (change : File → File) :
    w.Older d (d.modifyFile w.file change) := by
  refine ⟨Nat.le_of_eq (Disk.nextId_modifyFile ..).symm, fun id _ hne => ?_⟩
  rw [Disk.file?_modifyFile, if_neg hne]

/-! ## What keeps a site -/

variable {w : Site} {stored : Option Database} {d : Disk}

theorem offer_congr {w' : Site} (hdir : w.origin.SameDirectories w'.origin)
    (hmain : w.main = w'.main)
    (h : ∀ place, place ≠ w.main → w.origin.holds place = w'.origin.holds place) :
    w.offer = w'.offer := by
  funext file
  simp only [offer, Disk.seat?_congr hdir]
  split
  · rfl
  · split
    · rfl
    · rename_i place _
      rw [← hmain]
      by_cases e : place = w.main
      · rw [if_pos e, if_pos e]
      · rw [if_neg e, if_neg e, h place e]

namespace Kept

theorem seat? (h : w.Kept stored d) (p : Path) : d.seat? p = w.origin.seat? p :=
  (Disk.seat?_congr h.directories p).symm

theorem locate_path (h : w.Kept stored d) : d.locate w.path = .ok (.file w.main w.file) := by
  rcases Disk.locate_of_seat? ((h.seat? w.path).trans w.seat_path) with
    ⟨id, hnode, hl⟩ | ⟨dir, name, -, hnode, -⟩
  · rw [h.here] at hnode
    cases hnode
    exact hl
  · rw [h.here] at hnode
    cases hnode

theorem committed (h : w.Kept stored d) :
    Session.committed d w.file = .ok (stored.getD .empty) := by
  obtain ⟨f, hf, hcontent, -⟩ := h.file
  simp only [Session.committed, hf, hcontent, databaseOf_contentOf]

theorem spent (h : w.Kept stored d) : w.Kept stored d.spent where
  numbered := h.numbered.spent
  directories := h.directories.trans (Disk.sameDirectories_spent d)
  here := h.here
  sole := h.sole
  file := h.file
  elsewhere := h.elsewhere
  faults := (List.tail_suffix _).trans h.faults

/-- A new file at a vacant place. -/
theorem withFile (h : w.Kept stored d) {name : Name} {dir : Location}
    (hnode : d.node? (name :: dir) = none) : w.Kept stored (d.withFile (name :: dir)) where
  numbered := h.numbered.withFile name dir
  directories := h.directories.trans (Disk.sameDirectories_withFile (by simp [hnode]))
  here := by
    rw [Disk.node?_withFile, if_neg, h.here]
    intro e
    rw [← e, h.here] at hnode
    cases hnode
  sole place hplace := by
    rw [Disk.node?_withFile] at hplace
    by_cases e : place = name :: dir
    · rw [if_pos e, Option.some.injEq, Node.file.injEq] at hplace
      obtain ⟨f, hf, -⟩ := h.file
      exact absurd hplace.symm (Nat.ne_of_lt (h.numbered.file_lt hf))
    · rw [if_neg e] at hplace
      exact h.sole place hplace
  file := by
    obtain ⟨f, hf, hrest⟩ := h.file
    exact ⟨f, by rw [Disk.file?_withFile, if_neg (Nat.ne_of_lt (h.numbered.file_lt hf)), hf], hrest⟩
  elsewhere place hne := by rw [Disk.holds_withFile h.numbered hnode, h.elsewhere place hne]
  faults := h.faults

/-- Removing a file in which nothing is. -/
theorem clearNode (h : w.Kept stored d) {name : Name} {dir : Location}
    (hne : name :: dir ≠ w.main) (hnode : d.node? (name :: dir) ≠ some .directory)
    (hempty : d.holds (name :: dir) = .plain []) : w.Kept stored (d.clearNode (name :: dir)) where
  numbered := h.numbered.clearNode name dir
  directories := h.directories.trans (Disk.sameDirectories_clearNode hnode)
  here := by rw [Disk.node?_clearNode, if_neg hne.symm, h.here]
  sole place hplace := by
    rw [Disk.node?_clearNode] at hplace
    by_cases e : place = name :: dir
    · rw [if_pos e] at hplace
      cases hplace
    · rw [if_neg e] at hplace
      exact h.sole place hplace
  file := h.file
  elsewhere place hne := by rw [Disk.holds_clearNode hempty, h.elsewhere place hne]
  faults := h.faults

/-- A change of the file that leaves the locks to the session. -/
theorem modifyFile (h : w.Kept stored d) (change : File → File) {stored' : Option Database}
    (hchange : ∀ f, f.content = contentOf stored → (∀ l ∈ f.locks, l.1 = w.session) →
      (change f).content = contentOf stored' ∧ ∀ l ∈ (change f).locks, l.1 = w.session) :
    w.Kept stored' (d.modifyFile w.file change) where
  numbered := h.numbered.modifyFile w.file change
  directories := h.directories.trans (Disk.sameDirectories_modifyFile d w.file change)
  here := by rw [Disk.node?_modifyFile, h.here]
  sole place hplace := h.sole place (by rwa [Disk.node?_modifyFile] at hplace)
  file := by
    obtain ⟨f, hf, hcontent, hlocks⟩ := h.file
    refine ⟨change f, ?_, hchange f hcontent hlocks⟩
    rw [Disk.file?_modifyFile, if_pos rfl, hf, Option.map_some]
  elsewhere place hne := by
    rw [Disk.holds_modifyFile fun e => hne (h.sole place e), h.elsewhere place hne]
  faults := by
    rw [Disk.faults_modifyFile]
    exact h.faults

/-- Opening a file fails by a fault, or gives a file with a number that is in use. -/
theorem openFile (h : w.Kept stored d) {p : Path} {place : Location}
    (hseat : w.origin.seat? p = some place) (hp : p.hasTrailingSlash = false) :
    (∃ fault, some fault ∈ w.origin.faults ∧ d.openFile p = (.error fault, d.spent)) ∨
      ∃ id e, d.openFile p = (.ok id, e) ∧ w.Kept stored e ∧ w.Older d e ∧
        e.node? place = some (.file id) ∧
        (∀ other, d.node? other ≠ none → e.node? other = d.node? other) ∧
        e.file? w.file = d.file? w.file := by
  rcases Disk.openFile_of_seat? ((h.seat? p).trans hseat) hp with
    ⟨fault, hfault, hopen⟩ | ⟨id, hnode, hopen⟩ | ⟨hnode, hopen⟩
  · exact Or.inl ⟨fault, h.faults.subset hfault, hopen⟩
  · exact Or.inr ⟨id, d.spent, hopen, h.spent, w.older_spent d, hnode, fun _ _ => rfl, rfl⟩
  · rcases Disk.locate_of_seat? ((h.seat? p).trans hseat) with
      ⟨id, hfile, -⟩ | ⟨dir, name, rfl, -, -⟩
    · rw [hnode] at hfile
      cases hfile
    · have hspent : d.spent.node? (name :: dir) = none := hnode
      refine Or.inr ⟨d.nextId, _, hopen, h.spent.withFile hspent,
        (w.older_spent d).trans (w.older_withFile d.spent _), ?_, fun other hother => ?_, ?_⟩
      · rw [Disk.node?_withFile, if_pos rfl, Disk.nextId_spent]
      · rw [Disk.node?_withFile, if_neg (fun e => hother (by rw [e, hnode])), Disk.node?_spent]
      · obtain ⟨f, hf, -⟩ := h.file
        rw [Disk.file?_withFile, if_neg, Disk.file?_spent]
        exact Nat.ne_of_lt (h.numbered.file_lt hf)

end Kept

end Site

end SqlReplay.Sql
