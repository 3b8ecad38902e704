import SqlReplay.Proofs.Sql.Alone

/-!
# Opening a new file

A session that opens a file where there is none, and no journal beside it either, makes the file and
is alone with it (`Vacancy.mirrors`).  What the disk holds elsewhere does not change.
-/

namespace SqlReplay.Sql

open Storage

/-! ## The disk after opening -/

/-- The disk once a session has been opened on a new file at a place. -/
def opened (d : Disk) (place : Location) : Disk :=
  { d.spent.withFile place with nextId := d.nextId + 2 }

section Opened

variable {d : Disk} {name : Name} {dir : Location}

theorem node?_opened (d : Disk) (name : Name) (dir place : Location) :
    (opened d (name :: dir)).node? place =
      if place = name :: dir then some (.file d.nextId) else d.node? place :=
  Disk.node?_withFile d.spent name dir place

theorem file?_opened (d : Disk) (place : Location) (id : Id) :
    (opened d place).file? id =
      if id = d.nextId then some (.holding (.plain [])) else d.file? id :=
  Disk.file?_withFile d.spent place id

theorem holds_opened (hd : d.Numbered) (hnode : d.node? (name :: dir) = none)
    (place : Location) : (opened d (name :: dir)).holds place = d.holds place :=
  Disk.holds_withFile hd.spent hnode place

theorem sameDirectories_opened (hnode : d.node? (name :: dir) = none) :
    d.SameDirectories (opened d (name :: dir)) := by
  have hspent : d.spent.node? (name :: dir) ≠ some .directory := by simp [hnode]
  have hmade := Disk.sameDirectories_withFile hspent
  exact ⟨rfl, fun place => hmade.node place⟩

theorem numbered_opened (hd : d.Numbered) : (opened d (name :: dir)).Numbered := by
  have hmade := hd.spent.withFile name dir
  exact ⟨fun hnode => Nat.lt_succ_of_lt (hmade.node_lt hnode),
    fun hfile => Nat.lt_succ_of_lt (hmade.file_lt hfile)⟩

end Opened

/-! ## Vacancies -/

/-- Whether neither the file at a path nor its journal exists, at the given places. -/
structure Vacancy (d : Disk) (path : Path) (name : Name) (dir beside : Location) : Prop where
  numbered : d.Numbered
  seat : d.seat? path = some (name :: dir)
  seat_journal : d.seat? (path.withSuffix "-journal") = some beside
  slash : path.hasTrailingSlash = false
  slash_journal : (path.withSuffix "-journal").hasTrailingSlash = false
  ne : beside ≠ name :: dir
  node : d.node? (name :: dir) = none
  node_journal : d.node? beside = none

namespace Vacancy

variable {d : Disk} {path : Path} {name : Name} {dir beside : Location}

/-- The site of a session that opens the file. -/
def site (h : Vacancy d path name dir beside) : Site where
  origin := opened d (name :: dir)
  path := path
  session := d.nextId + 1
  file := d.nextId
  main := name :: dir
  beside := beside
  seat_path := (Disk.seat?_congr (sameDirectories_opened h.node) path).symm.trans h.seat
  seat_journal := (Disk.seat?_congr (sameDirectories_opened h.node) _).symm.trans h.seat_journal
  beside_ne := h.ne
  path_slash := h.slash
  journal_slash := h.slash_journal
  journal_empty := (holds_opened h.numbered h.node _).trans (Disk.holds_of_none h.node_journal)

/-- The session that opens the file. -/
def session (_ : Vacancy d path name dir beside) : Session :=
  ⟨d.nextId + 1, d.nextId, path, true, none, none, [], none⟩

theorem opening (h : Vacancy d path name dir beside) :
    (∃ fault, some fault ∈ d.faults ∧ Session.opening d path = (none, d.spent)) ∨
      Session.opening d path = (some h.session, h.site.origin) := by
  rcases Disk.openFile_of_seat? h.seat h.slash with
    ⟨fault, hfault, hopen⟩ | ⟨id, hfile, -⟩ | ⟨-, hopen⟩
  · exact Or.inl ⟨fault, hfault, by simp only [Session.opening, hopen]⟩
  · rw [h.node] at hfile
    cases hfile
  · right
    simp only [Session.opening, hopen]
    rfl

theorem kept (h : Vacancy d path name dir beside) : h.site.Kept none h.site.origin where
  numbered := numbered_opened h.numbered
  directories := Disk.SameDirectories.refl _
  here := (node?_opened d name dir _).trans (if_pos rfl)
  sole place hplace := by
    by_cases e : place = name :: dir
    · exact e
    · rw [site, node?_opened, if_neg e] at hplace
      exact absurd (h.numbered.node_lt hplace) (Nat.lt_irrefl _)
  file := ⟨_, (file?_opened d _ _).trans (if_pos rfl), rfl, nofun⟩
  elsewhere _ _ := rfl
  faults := List.suffix_refl _

/-- The session is alone with an empty file. -/
theorem mirrors (h : Vacancy d path name dir beside) :
    h.site.Mirrors Solo.fresh h.session h.site.origin := by
  refine ⟨⟨⟨rfl, rfl, rfl⟩, h.kept, rfl, rfl, rfl, nofun, List.Forall₂.nil, nofun⟩, ?_⟩
  have hfile : h.site.origin.file? d.nextId = some (.holding (.plain [])) :=
    (file?_opened d _ _).trans (if_pos rfl)
  have hlock : h.session.lock? h.site.origin = none := by
    simp only [Session.lock?, Session.locks, session, hfile]
    rfl
  rw [hlock]
  simp

end Vacancy

end SqlReplay.Sql
