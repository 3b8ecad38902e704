import Mathlib.Data.Set.Operations
import SqlReplay.Proofs.Storage.Tree
import SqlReplay.Storage.Buffered

/-!
# Disks with other texts in some files

Two disks may be the same but for the texts in some files (`Disk.Reworded`).  No operation on a disk
sees such a text, unless it reads the file: what comes of it is the same on both, and they stay the
same but for these texts (`Disk.Matches`).  A file that is emptied is the same on both from then on.
-/

namespace SqlReplay.Storage

/-- Whether two files are the same but for what they hold, which is some text and not empty. -/
structure File.Reworded (f g : File) : Prop where
  locks : g.locks = f.locks
  writesLeft : g.writesLeft = f.writesLeft
  discards : g.discards = f.discards
  held : ∃ text, text ≠ [] ∧ f.content = .plain text
  holds : ∃ text, text ≠ [] ∧ g.content = .plain text

namespace Disk

variable {ids more : Set Id} {d e : Disk} {α β : Type}

/-- Whether two disks are the same but for the texts in some files. -/
structure Reworded (ids : Set Id) (d e : Disk) : Prop where
  nodes : e.nodes = d.nodes
  home : e.home = d.home
  nextId : e.nextId = d.nextId
  faults : e.faults = d.faults
  file : ∀ id, e.file? id = d.file? id ∨
    id ∈ ids ∧ ∃ f g, d.file? id = some f ∧ e.file? id = some g ∧ f.Reworded g

/-- Whether the same came of two operations, on disks that are the same but for some texts. -/
inductive Matches (ids : Set Id) : α × Disk → α × Disk → Prop
  | mk (a : α) {d e : Disk} (h : Reworded ids d e) : Matches ids (a, d) (a, e)

/-- Whether the same came of two operations that also give something to go on with. -/
inductive MatchesWith (ids : Set Id) : α × β × Disk → α × β × Disk → Prop
  | mk (a : α) (b : β) {d e : Disk} (h : Reworded ids d e) : MatchesWith ids (a, b, d) (a, b, e)

/-- Whether a file was made or emptied on both disks, on neither of which it is then reworded. -/
inductive Creates (ids : Set Id) : Except Fault Id × Disk → Except Fault Id × Disk → Prop
  | failed (fault : Fault) {d e : Disk} (h : Reworded ids d e) :
      Creates ids (.error fault, d) (.error fault, e)
  | made (id : Id) {d e : Disk} (h : Reworded (ids \ {id}) d e) :
      Creates ids (.ok id, d) (.ok id, e)

/-- What holds of equal results on such disks holds of what came of the operations. -/
@[elab_as_elim]
theorem Matches.elim {motive : α × Disk → α × Disk → Prop} {x y : α × Disk}
    (h : Matches ids x y) (mk : ∀ a d e, Reworded ids d e → motive (a, d) (a, e)) : motive x y := by
  obtain ⟨a, h⟩ := h
  exact mk a _ _ h

@[elab_as_elim]
theorem MatchesWith.elim {motive : α × β × Disk → α × β × Disk → Prop} {x y : α × β × Disk}
    (h : MatchesWith ids x y)
    (mk : ∀ a b d e, Reworded ids d e → motive (a, b, d) (a, b, e)) : motive x y := by
  obtain ⟨a, b, h⟩ := h
  exact mk a b _ _ h

namespace Reworded

theorem mono (h : Reworded ids d e) (hsub : ids ⊆ more) : Reworded more d e where
  nodes := h.nodes
  home := h.home
  nextId := h.nextId
  faults := h.faults
  file id := (h.file id).imp_right (And.imp_left fun hid => hsub hid)

/-! ## Looking -/

theorem node? (h : Reworded ids d e) (place : Location) : e.node? place = d.node? place := by
  simp only [Disk.node?, h.nodes]

theorem locate (h : Reworded ids d e) (p : Path) : e.locate p = d.locate p :=
  locate_congr h.node? h.home p

theorem find (h : Reworded ids d e) (p : Path) : e.find p = d.find p := by
  simp only [Disk.find, h.locate]

theorem hasDirectory (h : Reworded ids d e) (p : Path) : e.hasDirectory p = d.hasDirectory p := by
  simp only [Disk.hasDirectory, h.find]

/-- What is seen of a file without reading its text is the same. -/
theorem seen (h : Reworded ids d e) (look : File → α)
    (hlook : ∀ f g, File.Reworded f g → look g = look f) (id : Id) :
    (e.file? id).map look = (d.file? id).map look := by
  rcases h.file id with hsame | ⟨-, f, g, hf, hg, hreworded⟩
  · rw [hsame]
  · rw [hf, hg, Option.map_some, Option.map_some, hlook f g hreworded]

/-- What is read is the same unless it is one of the texts. -/
theorem read (h : Reworded ids d e) {p : Path}
    (haway : ∀ place id, d.locate p = .ok (.file place id) → id ∉ ids) : e.read p = d.read p := by
  simp only [Disk.read, h.find]
  cases hfind : d.find p with
  | error fault => rfl
  | ok spot =>
    cases spot with
    | directory place => rfl
    | vacant dir name => rfl
    | file place id =>
      have hlocate : d.locate p = .ok (.file place id) := by
        unfold Disk.find at hfind
        split at hfind
        · cases hfind
        · cases hfind
        · split at hfind <;> cases hfind
          assumption
        · cases hfind
      rcases h.file id with hsame | ⟨hid, -⟩
      · simp only [hsame]
      · exact absurd hid (haway place id hlocate)

/-! ## Elementary changes -/

theorem spent (h : Reworded ids d e) : Reworded ids d.spent e.spent :=
  ⟨h.nodes, h.home, h.nextId, congrArg List.tail h.faults, h.file⟩

theorem setNode (h : Reworded ids d e) (place : Location) (node : Node) :
    Reworded ids (d.setNode place node) (e.setNode place node) :=
  ⟨by simp only [Disk.setNode, h.nodes], h.home, h.nextId, h.faults, h.file⟩

theorem clearNode (h : Reworded ids d e) (place : Location) :
    Reworded ids (d.clearNode place) (e.clearNode place) :=
  ⟨by simp only [Disk.clearNode, h.nodes], h.home, h.nextId, h.faults, h.file⟩

theorem number (h : Reworded ids d e) :
    Reworded ids { d with nextId := d.nextId + 1 } { e with nextId := e.nextId + 1 } :=
  ⟨h.nodes, h.home, congrArg (· + 1) h.nextId, h.faults, h.file⟩

/-- A file that was put is the same on both. -/
theorem setFile (h : Reworded ids d e) (id : Id) (file : File) :
    Reworded (ids \ {id}) (d.setFile id file) (e.setFile id file) where
  nodes := h.nodes
  home := h.home
  nextId := h.nextId
  faults := h.faults
  file other := by
    rw [file?_setFile, file?_setFile]
    split
    · exact Or.inl rfl
    · next hother =>
      exact (h.file other).imp_right (And.imp_left fun hid => ⟨hid, hother⟩)

theorem setFiles (h : Reworded ids d e) {id : Id} (hid : id ∈ ids) {f g : File}
    (hfiles : f.Reworded g) : Reworded ids (d.setFile id f) (e.setFile id g) where
  nodes := h.nodes
  home := h.home
  nextId := h.nextId
  faults := h.faults
  file other := by
    rw [file?_setFile, file?_setFile]
    split
    · next hother => exact Or.inr ⟨hother ▸ hid, f, g, rfl, rfl, hfiles⟩
    · exact h.file other

/-- A change that does not depend on the text in a file keeps that text as the only difference, or
does away with it. -/
theorem modifyFile (h : Reworded ids d e) (id : Id) {change : File → File}
    (hchange : ∀ f g, File.Reworded f g →
      change g = change f ∨ File.Reworded (change f) (change g)) :
    Reworded ids (d.modifyFile id change) (e.modifyFile id change) := by
  refine ⟨by simp only [nodes_modifyFile, h.nodes], by simp only [home_modifyFile, h.home],
    by simp only [nextId_modifyFile, h.nextId], by simp only [faults_modifyFile, h.faults],
    fun other => ?_⟩
  rw [file?_modifyFile, file?_modifyFile]
  split
  · next hother =>
    rcases h.file id with hsame | ⟨hid, f, g, hf, hg, hreworded⟩
    · exact Or.inl (congrArg _ hsame)
    · rw [hf, hg]
      rcases hchange f g hreworded with hequal | hstill
      · exact Or.inl (congrArg some hequal)
      · exact Or.inr ⟨hother ▸ hid, _, _, rfl, rfl, hstill⟩
  · exact h.file other

/-- A file that was emptied is the same on both. -/
theorem empty (h : Reworded ids d e) (id : Id) :
    Reworded (ids \ {id}) (d.modifyFile id fun f => { f with content := .plain [] })
      (e.modifyFile id fun f => { f with content := .plain [] }) := by
  have hchange : ∀ f g, File.Reworded f g →
      ({ g with content := .plain [] } : File) = { f with content := .plain [] } := by
    intro f g hreworded
    rw [hreworded.locks, hreworded.writesLeft, hreworded.discards]
  have hmodified := h.modifyFile id fun f g hreworded => Or.inl (hchange f g hreworded)
  refine ⟨hmodified.nodes, hmodified.home, hmodified.nextId, hmodified.faults, fun other => ?_⟩
  by_cases hother : other = id
  · left
    rw [file?_modifyFile, file?_modifyFile, if_pos hother, if_pos hother]
    exact h.seen _ hchange id
  · exact (hmodified.file other).imp_right (And.imp_left fun hid => ⟨hid, hother⟩)

theorem addFile (h : Reworded ids d e) (place : Location) (file : File) :
    Matches ids (d.addFile place file) (e.addFile place file) := by
  have hmade := (h.number.setFile d.nextId file).setNode place (.file d.nextId)
  simp only [Disk.addFile, h.nextId] at hmade ⊢
  exact .mk _ (hmade.mono fun _ hid => hid.1)

/-! ## Operations -/

theorem makeDirectory (h : Reworded ids d e) (p : Path) :
    Matches ids (d.makeDirectory p) (e.makeDirectory p) := by
  simp only [Disk.makeDirectory, nextFault_eq, h.faults, locate_spent, h.locate]
  cases d.faults.head?.join with
  | some fault => exact .mk _ h.spent
  | none =>
    simp only
    split
    · exact .mk _ h.spent
    · exact .mk _ (h.spent.setNode _ _)
    · exact .mk _ h.spent

theorem makeDirectoriesWithin (h : Reworded ids d e) (p : Path) (fuel : Nat) :
    Matches ids (makeDirectoriesWithin p fuel d) (makeDirectoriesWithin p fuel e) := by
  induction fuel generalizing p d e with
  | zero => exact .mk _ h
  | succ fuel ih =>
    simp only [Disk.makeDirectoriesWithin]
    split
    · exact .mk _ h
    refine (h.makeDirectory p).elim ?_
    rintro (fault | _) _ _ h
    · simp only
      split
      · cases p.parent? with
        | none => exact .mk _ h
        | some parent =>
          simp only
          refine (ih h parent).elim ?_
          rintro (fault | _) _ _ h
          · exact .mk _ h
          · simp only
            refine (h.makeDirectory p).elim ?_
            rintro (fault | _) _ _ h
            · simp only [h.hasDirectory]
              split <;> exact .mk _ h
            · exact .mk _ h
      · simp only [h.hasDirectory]
        split <;> exact .mk _ h
    · exact .mk _ h

theorem makeDirectories (h : Reworded ids d e) (p : Path) :
    Matches ids (d.makeDirectories p) (e.makeDirectories p) := h.makeDirectoriesWithin p _

theorem makeParents (h : Reworded ids d e) (p : Path) :
    Matches ids (d.makeParents p) (e.makeParents p) := by
  unfold Disk.makeParents
  cases p.parent? with
  | none => exact .mk _ h
  | some parent =>
    simp only
    refine (h.makeDirectories parent).elim ?_
    rintro (fault | _) _ _ h <;> exact .mk _ h

theorem openFile (h : Reworded ids d e) (p : Path) :
    Matches ids (d.openFile p) (e.openFile p) := by
  simp only [Disk.openFile, nextFault_eq, h.faults, locate_spent, h.locate]
  cases d.faults.head?.join with
  | some fault => exact .mk _ h.spent
  | none =>
    simp only
    split
    · exact .mk _ h.spent
    · exact .mk _ h.spent
    · split <;> exact .mk _ h.spent
    · next dir name _ =>
      split
      · exact .mk _ h.spent
      · refine (h.spent.addFile (name :: dir) (.holding (.plain []))).elim ?_
        rintro id _ _ h
        exact .mk _ h

theorem createFile (h : Reworded ids d e) (p : Path) :
    Creates ids (d.createFile p) (e.createFile p) := by
  unfold Disk.createFile
  refine (h.openFile p).elim ?_
  rintro (fault | id) _ _ h
  · exact .failed fault h
  · exact .made id (h.empty id)

theorem append (h : Reworded ids d e) (id : Id) (bytes : Bytes) :
    Matches ids (d.append id bytes) (e.append id bytes) := by
  simp only [Disk.append, nextFault_eq, h.faults, file?_spent]
  cases d.faults.head?.join with
  | some fault => exact .mk _ h.spent
  | none =>
    rcases h.file id with hsame | ⟨hid, f, g, hf, hg, hreworded⟩
    · rw [hsame]
      cases d.file? id with
      | none => exact .mk _ h.spent
      | some file =>
        simp only
        split
        · exact .mk _ h.spent
        · exact .mk _ ((h.spent.setFile id _).mono fun _ hid => hid.1)
    · simp only [hf, hg, hreworded.writesLeft]
      split
      · exact .mk _ h.spent
      · refine .mk _ (h.spent.setFiles hid ?_)
        obtain ⟨hlocks, -, hdiscards, ⟨text, htext, hcontent⟩, text', htext', hcontent'⟩ :=
          hreworded
        refine ⟨hlocks, rfl, hdiscards, ?_, ?_⟩
        all_goals
          simp only [hdiscards, hcontent, hcontent', Content.bytes]
          split
        · exact ⟨text, htext, rfl⟩
        · exact ⟨text ++ bytes, List.append_ne_nil_of_left_ne_nil htext bytes, rfl⟩
        · exact ⟨text', htext', rfl⟩
        · exact ⟨text' ++ bytes, List.append_ne_nil_of_left_ne_nil htext' bytes, rfl⟩

theorem removeFile (h : Reworded ids d e) (p : Path) :
    Matches ids (d.removeFile p) (e.removeFile p) := by
  simp only [Disk.removeFile, nextFault_eq, h.faults, locate_spent, h.locate]
  cases d.faults.head?.join with
  | some fault => exact .mk _ h.spent
  | none =>
    simp only
    split
    · exact .mk _ h.spent
    · exact .mk _ h.spent
    · exact .mk _ h.spent
    · split
      · exact .mk _ h.spent
      · exact .mk _ (h.spent.clearNode _)

theorem rename (h : Reworded ids d e) (source target : Path) :
    Matches ids (d.rename source target) (e.rename source target) := by
  simp only [Disk.rename, nextFault_eq, h.faults, locate_spent, h.locate]
  cases d.faults.head?.join with
  | some fault => exact .mk _ h.spent
  | none =>
    simp only
    split
    · exact .mk _ h.spent
    · exact .mk _ h.spent
    · split
      · exact .mk _ h.spent
      · split
        · exact .mk _ h.spent
        · split
          · exact .mk _ h.spent
          · split
            · exact .mk _ h.spent
            · exact .mk _ ((h.spent.clearNode _).setNode _ _)
          · exact .mk _ ((h.spent.clearNode _).setNode _ _)
    · exact .mk _ h.spent
    · exact .mk _ h.spent

end Reworded

end Disk

/-! ## Writing through a buffer -/

namespace Buffered

open Disk

variable {ids : Set Id} {d e : Disk}

theorem drain_reworded (id : Id) (buffer : Bytes) (h : Reworded ids d e) :
    MatchesWith ids (drain id buffer d) (drain id buffer e) := by
  unfold drain
  split
  · exact .mk _ _ h
  · refine (h.append id buffer).elim ?_
    rintro (fault | _) _ _ h <;> exact .mk _ _ h

theorem put_reworded (id : Id) (buffer bytes : Bytes) (h : Reworded ids d e) :
    MatchesWith ids (put id buffer bytes d) (put id buffer bytes e) := by
  have hroom : MatchesWith ids
      (if capacity - buffer.length < bytes.length then drain id buffer d else (.ok (), buffer, d))
      (if capacity - buffer.length < bytes.length then drain id buffer e
        else (.ok (), buffer, e)) := by
    split
    · exact drain_reworded id buffer h
    · exact .mk _ _ h
  unfold put
  dsimp only
  split
  · exact .mk _ _ h
  refine hroom.elim ?_
  rintro (fault | _) buffer' _ _ h
  · exact .mk _ _ h
  · dsimp only
    split
    · refine (h.append id bytes).elim ?_
      rintro (fault | _) _ _ h <;> exact .mk _ _ h
    · exact .mk _ _ h

theorem putAll_reworded (id : Id) (pieces : List Bytes) (buffer : Bytes) (h : Reworded ids d e) :
    MatchesWith ids (putAll id pieces buffer d) (putAll id pieces buffer e) := by
  induction pieces generalizing buffer d e with
  | nil => exact .mk _ _ h
  | cons piece rest ih =>
    unfold putAll
    refine (put_reworded id buffer piece h).elim ?_
    rintro (fault | _) buffer' _ _ h
    · exact .mk _ _ h
    · exact ih buffer' h

theorem pour_reworded (id : Id) (pieces : List Bytes) (h : Reworded ids d e) :
    MatchesWith ids (pour id pieces d) (pour id pieces e) := by
  unfold pour
  refine (putAll_reworded id pieces [] h).elim ?_
  rintro (fault | _) buffer _ _ h
  · exact .mk _ _ h
  · exact drain_reworded id buffer h

theorem writeAll_reworded (id : Id) (pieces : List Bytes) (h : Reworded ids d e) :
    Matches ids (writeAll id pieces d) (writeAll id pieces e) := by
  unfold writeAll
  refine (pour_reworded id pieces h).elim ?_
  rintro (fault | _) buffer _ _ h
  · dsimp only
    refine (drain_reworded id buffer h).elim ?_
    rintro _ _ _ _ h
    exact .mk _ h
  · exact .mk _ h

end Buffered

end SqlReplay.Storage
