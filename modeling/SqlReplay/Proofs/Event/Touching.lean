import SqlReplay.Proofs.Event.Accounting
import SqlReplay.Proofs.Storage.Sparing

/-!
# What a journal touches

A journal touches its file and makes the directories for it, and leaves all else on the disk alone
(`Disk.TouchesOnly`), whatever faults strike it: so it is when it is opened (`touchesOnly_opening`),
with each entry, and when it ends (`AtPath.touchesOnly_finish`).
-/

namespace SqlReplay

open Storage

namespace Storage.Disk

variable {d e f : Disk} {p : Path}

/-- Whether all there was is there still, new is nothing but a file at the path and directories
above it, and no other file is touched. -/
structure TouchesOnly (p : Path) (d e : Disk) : Prop where
  home : e.home = d.home
  keeps : ∀ place node, d.node? place = some node → e.node? place = some node
  new : ∀ place node, d.node? place = none → e.node? place = some node →
    (∃ id, node = .file id ∧ e.locate p = .ok (.file place id)) ∨
      node = .directory ∧ ∃ q, p.Under q ∧ e.locate q = .ok (.directory place)
  file : ∀ id, (∀ place, e.locate p ≠ .ok (.file place id)) → e.file? id = d.file? id

namespace TouchesOnly

theorem locate_found (h : TouchesOnly p d e) {q : Path} {spot : Spot}
    (hlocate : d.locate q = .ok spot) (hspot : ∀ dir name, spot ≠ .vacant dir name) :
    e.locate q = .ok spot :=
  Disk.locate_found h.home h.keeps hlocate hspot

/-- If nothing new is there, it is enough that no other file is touched. -/
theorem of_nodes (hhome : e.home = d.home) (hnode : ∀ place, e.node? place = d.node? place)
    (hfile : ∀ id, (∀ place, e.locate p ≠ .ok (.file place id)) → e.file? id = d.file? id) :
    TouchesOnly p d e where
  home := hhome
  keeps place node hold := (hnode place).trans hold
  new place node hnone hsome := by
    rw [hnode, hnone] at hsome
    cases hsome
  file := hfile

theorem refl (p : Path) (d : Disk) : TouchesOnly p d d :=
  of_nodes rfl (fun _ => rfl) fun _ _ => rfl

theorem spent (p : Path) (d : Disk) : TouchesOnly p d d.spent :=
  of_nodes rfl (fun _ => rfl) fun _ _ => rfl

theorem trans (h : TouchesOnly p d e) (h' : TouchesOnly p e f) : TouchesOnly p d f where
  home := h'.home.trans h.home
  keeps place node hold := h'.keeps place node (h.keeps place node hold)
  new place node hnone hsome := by
    cases hnode : e.node? place with
    | none => exact h'.new place node hnode hsome
    | some node' =>
      -- What came first stays where it is.
      have hsame := h'.keeps place node' hnode
      rw [hsome] at hsame
      cases hsame
      rcases h.new place node hnone hnode with ⟨id, rfl, hlocate⟩ | ⟨rfl, q, hunder, hlocate⟩
      · exact Or.inl ⟨id, rfl, h'.locate_found hlocate nofun⟩
      · exact Or.inr ⟨rfl, q, hunder, h'.locate_found hlocate nofun⟩
  file id haway := by
    rw [h'.file id haway]
    exact h.file id fun place hlocate => haway place (h'.locate_found hlocate nofun)

end TouchesOnly

theorem Rewrites.touchesOnly {id : Id} {place : Location} (h : Rewrites id d e)
    (hlocate : d.locate p = .ok (.file place id)) : TouchesOnly p d e := by
  refine .of_nodes h.home h.node fun other haway => h.file other ?_
  rintro rfl
  exact haway place (h.locate_file_iff.2 hlocate)

theorem touchesOnly_makeParents (p : Path) (d : Disk) : TouchesOnly p d (d.makeParents p).2 := by
  have hgrown := makeParents_grown d p
  refine ⟨hgrown.home, hgrown.keeps, fun place node hnone hsome => Or.inr ?_,
    fun id _ => hgrown.file? id⟩
  have hdirectory : node = .directory := by
    rcases hgrown.new place hnone with hnew | hnew
    · rw [hnew] at hsome
      cases hsome
    · rw [hnew] at hsome
      exact (Option.some.inj hsome).symm
  exact ⟨hdirectory, makeParents_new hnone (by rw [hsome]; exact nofun)⟩

theorem touchesOnly_withFile {name : Name} {dir : Location} (hseat : d.seat? p = some (name :: dir))
    (hnone : d.node? (name :: dir) = none) : TouchesOnly p d (d.withFile (name :: dir)) := by
  have hlocate : (d.withFile (name :: dir)).locate p = .ok (.file (name :: dir) d.nextId) := by
    refine locate_eq_file_iff.2 ⟨?_, ?_⟩
    · rw [← seat?_congr (sameDirectories_withFile (by rw [hnone]; exact nofun)), hseat]
    · rw [node?_withFile, if_pos rfl]
  refine ⟨rfl, fun place node hold => ?_, fun place node hnew hsome => Or.inl ?_,
    fun id haway => ?_⟩
  · rw [node?_withFile, if_neg]
    · exact hold
    · rintro rfl
      rw [hnone] at hold
      cases hold
  · rw [node?_withFile] at hsome
    split at hsome
    · next hplace =>
      cases hsome
      exact ⟨d.nextId, rfl, hplace ▸ hlocate⟩
    · rw [hnew] at hsome
      cases hsome
  · rw [file?_withFile, if_neg]
    rintro rfl
    exact haway _ hlocate

theorem touchesOnly_openFile (p : Path) (d : Disk) : TouchesOnly p d (d.openFile p).2 := by
  by_cases hnone : d.seat? p = none ∨ p.hasTrailingSlash = true
  · obtain ⟨fault, hopen⟩ := openFile_of_no_seat hnone
    rw [hopen]
    exact .spent p d
  rw [not_or, Bool.not_eq_true] at hnone
  obtain ⟨hseat, hslash⟩ := hnone
  obtain ⟨place, hseat⟩ := Option.ne_none_iff_exists'.1 hseat
  rcases openFile_of_seat? hseat hslash with ⟨fault, -, hopen⟩ | ⟨id, -, hopen⟩ | ⟨hfree, hopen⟩
  · rw [hopen]
    exact .spent p d
  · rw [hopen]
    exact .spent p d
  · rw [hopen]
    cases place with
    | nil => cases hfree
    | cons name dir =>
      exact (TouchesOnly.spent p d).trans
        (touchesOnly_withFile ((seat?_spent d p).trans hseat) hfree)

end Storage.Disk

namespace Logging

open Disk

variable {l : Logging} {p : Path}

/-- Whether a journal that has a file has the one at a path. -/
def AtPath (p : Path) (l : Logging) : Prop :=
  ∀ id buffer, l.journal.channel = .file id buffer → ∃ place, l.disk.locate p = .ok (.file place id)

theorem journal_openFile_touchesOnly (p : Path) (d : Disk) :
    TouchesOnly p d (Journal.openFile p d).2 ∧ ∀ id, (Journal.openFile p d).1 = .ok id →
      ∃ place, (Journal.openFile p d).2.locate p = .ok (.file place id) := by
  have hmade := touchesOnly_makeParents p d
  unfold Journal.openFile
  generalize d.makeParents p = got at hmade ⊢
  obtain ⟨⟨parent, fault⟩ | _, e⟩ := got
  · exact ⟨hmade, nofun⟩
  · have hopened := hmade.trans (touchesOnly_openFile p e)
    simp only
    cases hopen : e.openFile p with
    | mk result f =>
      rw [hopen] at hopened
      cases result with
      | error fault => exact ⟨hopened, nofun⟩
      | ok id =>
        refine ⟨hopened, ?_⟩
        rintro _ ⟨⟩
        exact (openFile_eq_ok hopen).2.2

theorem touchesOnly_opening (p : Path) (d : Disk) (errors : ErrorStream) :
    TouchesOnly p d (Journal.opening p d errors).disk ∧ AtPath p (Journal.opening p d errors) := by
  obtain ⟨htouches, hlocate⟩ := journal_openFile_touchesOnly p d
  unfold Journal.opening
  generalize Journal.openFile p d = got at htouches hlocate ⊢
  obtain ⟨fault | id, e⟩ := got
  · exact ⟨htouches, nofun⟩
  · refine ⟨htouches, ?_⟩
    rintro _ _ ⟨⟩
    exact hlocate id rfl

theorem atPath_putError (l : Logging) (line : String) : AtPath p (l.putError line) := by
  intro id buffer hchannel
  unfold putError at hchannel
  dsimp only at hchannel
  split at hchannel <;> cases hchannel

/-! ## Where paths lead -/

section Locate

variable (l : Logging) (q : Path)

theorem locate_write (entry : Entry) : (l.write entry).disk.locate q = l.disk.locate q := by
  obtain ⟨⟨path, channel, lines⟩, d, errors⟩ := l
  cases channel with
  | file id buffer =>
    have hput := (Buffered.carries_put id buffer entry.lineBytes d).rewrites
    simp only [Logging.write]
    generalize Buffered.put id buffer entry.lineBytes d = got at hput ⊢
    obtain ⟨fault | _, buffer', e⟩ := got
    · have hdrain := hput.trans (Buffered.carries_drain id buffer' e).rewrites
      exact locate_congr hdrain.node hdrain.home q
    · exact locate_congr hput.node hput.home q
  | errorStream => rfl
  | nowhere => rfl

theorem locate_writeAll (entries : List Entry) :
    (l.writeAll entries).disk.locate q = l.disk.locate q := by
  induction entries generalizing l with
  | nil => rfl
  | cons entry rest ih => exact (ih (l.write entry)).trans (locate_write l q entry)

theorem locate_flush : l.flush.disk.locate q = l.disk.locate q := by
  obtain ⟨⟨path, channel, lines⟩, d, errors⟩ := l
  cases channel with
  | file id buffer =>
    have hdrain := (Buffered.carries_drain id buffer d).rewrites
    exact locate_congr hdrain.node hdrain.home q
  | errorStream => rfl
  | nowhere => rfl

/-- The end of a journal leaves every path where it leads. -/
theorem locate_finish : l.finish.locate q = l.disk.locate q :=
  (locate_flush l.flush q).trans (locate_flush l q)

end Locate

namespace AtPath

theorem write (h : AtPath p l) (entry : Entry) :
    TouchesOnly p l.disk (l.write entry).disk ∧ AtPath p (l.write entry) := by
  obtain ⟨⟨path, channel, lines⟩, d, errors⟩ := l
  cases channel with
  | file id buffer =>
    obtain ⟨place, hlocate⟩ := h id buffer rfl
    have hput := (Buffered.carries_put id buffer entry.lineBytes d).rewrites
    simp only [Logging.write]
    generalize Buffered.put id buffer entry.lineBytes d = got at hput ⊢
    obtain ⟨fault | _, buffer', e⟩ := got
    · have hdrain := hput.trans (Buffered.carries_drain id buffer' e).rewrites
      exact ⟨hdrain.touchesOnly hlocate, atPath_putError _ _⟩
    · refine ⟨hput.touchesOnly hlocate, fun other buffer'' hchannel => ?_⟩
      cases hchannel
      exact ⟨place, hput.locate_file_iff.2 hlocate⟩
  | errorStream => exact ⟨.refl p _, atPath_putError _ _⟩
  | nowhere => exact ⟨.refl p _, h⟩

theorem flush (h : AtPath p l) : TouchesOnly p l.disk l.flush.disk ∧ AtPath p l.flush := by
  obtain ⟨⟨path, channel, lines⟩, d, errors⟩ := l
  cases channel with
  | file id buffer =>
    obtain ⟨place, hlocate⟩ := h id buffer rfl
    have hdrain := (Buffered.carries_drain id buffer d).rewrites
    refine ⟨hdrain.touchesOnly hlocate, fun other buffer' hchannel => ?_⟩
    cases hchannel
    exact ⟨place, hdrain.locate_file_iff.2 hlocate⟩
  | errorStream => exact ⟨.refl p _, h⟩
  | nowhere => exact ⟨.refl p _, h⟩

theorem writeAll (h : AtPath p l) (entries : List Entry) :
    TouchesOnly p l.disk (l.writeAll entries).disk ∧ AtPath p (l.writeAll entries) := by
  induction entries generalizing l with
  | nil => exact ⟨.refl p _, h⟩
  | cons entry rest ih =>
    obtain ⟨hfirst, hat⟩ := h.write entry
    obtain ⟨hrest, hend⟩ := ih hat
    exact ⟨hfirst.trans hrest, hend⟩

theorem touchesOnly_finish (h : AtPath p l) : TouchesOnly p l.disk l.finish := by
  obtain ⟨hfirst, hat⟩ := h.flush
  exact hfirst.trans hat.flush.1

end AtPath

end Logging

end SqlReplay
