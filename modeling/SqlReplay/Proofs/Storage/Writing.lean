import SqlReplay.Proofs.Storage.Frame
import SqlReplay.Storage.Buffered

/-!
# Writing and renaming a file

What is in a file and in the buffer before it is all that was put (`Buffered.carries_put`), so once
everything went well the file holds the pieces one after the other (`Buffered.writeAll_holds`).  No
write touches another file.  A file that was renamed is where the new name leads, with what it held
(`Disk.locate_of_rename`).
-/

namespace SqlReplay.Storage

namespace Disk

variable {d e : Disk} {id : Id} {bytes more : Bytes}

/-- Whether a file keeps what is written to it and holds the bytes. -/
def Holds (d : Disk) (id : Id) (bytes : Bytes) : Prop :=
  ∃ f, d.file? id = some f ∧ f.discards = false ∧ f.content = .plain bytes

/-! ## Writing -/

theorem rewrites_append (d : Disk) (id : Id) (bytes : Bytes) :
    Rewrites id d (d.append id bytes).2 := by
  simp only [append, nextFault_eq]
  cases d.faults.head?.join with
  | some fault => exact Rewrites.spent id d
  | none =>
    simp only [file?_spent]
    cases hfile : d.file? id with
    | none => exact Rewrites.spent id d
    | some f =>
      simp only
      split
      · exact Rewrites.spent id d
      · exact (Rewrites.spent id d).trans (Rewrites.setFile hfile rfl)

theorem Holds.append (h : d.Holds id bytes) (hok : d.append id more = (.ok (), e)) :
    e.Holds id (bytes ++ more) := by
  obtain ⟨f, hfile, hdiscards, hcontent⟩ := h
  simp only [Disk.append, nextFault_eq, file?_spent, hfile] at hok
  cases hfault : d.faults.head?.join with
  | some fault =>
    rw [hfault] at hok
    cases hok
  | none =>
    simp only [hfault] at hok
    split at hok
    · cases hok
    · cases hok
      refine ⟨_, (file?_setFile _ _ _ _).trans (if_pos rfl), hdiscards, ?_⟩
      simp only [hdiscards, hcontent, Content.bytes, Bool.false_eq_true, if_false]

/-- Creating a file fails and changes nothing, or gives an empty file that stands where the path
leads. -/
theorem createFile_cases {p : Path} (hd : d.Filed) (hslash : p.hasTrailingSlash = false) :
    (∃ fault, d.createFile p = (.error fault, d.spent)) ∨
      ∃ place id e, d.createFile p = (.ok id, e) ∧ SameBesides p d e ∧
        e.locate p = .ok (.file place id) ∧ (place ≠ nullDevice → e.Holds id []) := by
  rcases openFile_cases hd hslash with ⟨fault, hopen⟩ | ⟨place, id, e, hopen, hbesides, hfiled,
    hlocate⟩
  · exact .inl ⟨fault, by rw [createFile, hopen]⟩
  · have hemptied := Rewrites.setContent e id (.plain [])
    refine .inr ⟨place, id, _, by rw [createFile, hopen],
      hbesides.trans (hemptied.sameBesides hlocate), hemptied.locate_file_iff.2 hlocate,
      fun hplace => ?_⟩
    obtain ⟨f, hfile, hdiscards⟩ := hfiled.file (locate_eq_file_iff.1 hlocate).2
    have hkept : f.discards = false := Bool.eq_false_iff.2 fun hdrop => hplace (hdiscards hdrop)
    exact ⟨{ f with content := .plain [] },
      by rw [file?_modifyFile, if_pos rfl, hfile, Option.map_some], hkept, rfl⟩

/-! ## Renaming -/

theorem rename_eq_error {source target : Path} {fault : Fault}
    (h : d.rename source target = (.error fault, e)) : e = d.spent := by
  have hspent : ∀ {fault' : Fault}, ((.error fault' : Except Fault Unit), d.spent) =
      (.error fault, e) → e = d.spent := by
    rintro _ ⟨⟩
    rfl
  simp only [rename, nextFault_eq, locate_spent] at h
  cases hfault : d.faults.head?.join with
  | some struck =>
    rw [hfault] at h
    exact hspent h
  | none =>
    simp only [hfault] at h
    split at h
    · exact hspent h
    · exact hspent h
    · split_ifs at h
      · exact hspent h
      · exact hspent h
      · split at h
        · exact hspent h
        · split_ifs at h
          · cases h
          · cases h
        · cases h
    · exact hspent h
    · exact hspent h

/-- Renaming moves a file to where the new name leads, unless it is there already. -/
theorem rename_eq_ok {source target : Path} (h : d.rename source target = (.ok (), e)) :
    target.hasTrailingSlash = false ∧ ∃ n above id name dir,
      d.locate source = .ok (.file (n :: above) id) ∧ d.seat? target = some (name :: dir) ∧
        (d.node? (name :: dir) = some (.file id) ∧ e = d.spent ∨
          e = (d.spent.clearNode (n :: above)).setNode (name :: dir) (.file id)) := by
  simp only [rename, nextFault_eq, locate_spent] at h
  cases hfault : d.faults.head?.join with
  | some struck =>
    rw [hfault] at h
    cases h
  | none =>
    simp only [hfault] at h
    split at h
    · cases h
    · cases h
    · rename_i old id spot hsource htarget
      obtain ⟨-, hold⟩ := locate_eq_file_iff.1 hsource
      cases old with
      | nil => cases hold
      | cons n above =>
        split_ifs at h with hname hslash
        · cases h
        · cases h
        rw [Bool.or_eq_true, not_or, Bool.not_eq_true, Bool.not_eq_true] at hslash
        refine ⟨hslash.2, n, above, id, ?_⟩
        cases spot with
        | directory place => cases h
        | file new other =>
          obtain ⟨hseat, hnode⟩ := locate_eq_file_iff.1 htarget
          cases new with
          | nil => cases hnode
          | cons name dir =>
            refine ⟨name, dir, hsource, hseat, ?_⟩
            simp only at h
            split_ifs at h with hsame
            · cases h
              exact .inl ⟨hsame ▸ hnode, rfl⟩
            · cases h
              exact .inr rfl
        | vacant dir name =>
          have hseat : d.seat? target = some (name :: dir) := by rw [seat?, htarget]; rfl
          cases h
          exact ⟨name, dir, hsource, hseat, .inr rfl⟩
    · cases h
    · cases h

/-- A file that was renamed is where the new name leads, and all files are as they were. -/
theorem locate_of_rename {source target : Path} (h : d.rename source target = (.ok (), e)) :
    ∃ old id new, d.locate source = .ok (.file old id) ∧ e.locate target = .ok (.file new id) ∧
      ∀ other, e.file? other = d.file? other := by
  obtain ⟨-, n, above, id, name, dir, hsource, hseat, ⟨hnode, rfl⟩ | rfl⟩ := rename_eq_ok h
  · refine ⟨n :: above, id, name :: dir, hsource, ?_, fun _ => rfl⟩
    rw [locate_spent]
    exact locate_eq_file_iff.2 ⟨hseat, hnode⟩
  · refine ⟨n :: above, id, name :: dir, hsource, locate_eq_file_iff.2 ⟨?_, ?_⟩, fun _ => rfl⟩
    · have hold : d.spent.node? (n :: above) ≠ some .directory :=
        node?_ne_directory (locate_eq_file_iff.1 hsource).2
      have hcleared := (sameDirectories_spent d).trans (sameDirectories_clearNode hold)
      rw [← seat?_congr (hcleared.trans (sameDirectories_setNode_file id ?_)) target]
      · exact hseat
      · rw [Ne, ← hcleared.node]
        exact node?_of_seat? hseat
    · rw [node?_setNode, if_pos rfl]

/-- Renaming touches two names and no directory.  The old name is gone, unless the file had the new
one already. -/
theorem names_of_rename {source target : Path} (h : d.rename source target = (.ok (), e)) :
    SameDirectories d e ∧
      (∀ place, d.seat? source ≠ some place → d.seat? target ≠ some place →
        e.node? place = d.node? place) ∧
      ((∃ old new id, d.locate source = .ok (.file old id) ∧
          d.locate target = .ok (.file new id)) ∨
        ∀ place, d.seat? source = some place → d.seat? target ≠ some place →
          e.node? place = none) := by
  obtain ⟨-, n, above, id, name, dir, hsource, hseat, ⟨hnode, rfl⟩ | rfl⟩ := rename_eq_ok h
  · exact ⟨sameDirectories_spent d, fun _ _ _ => rfl,
      .inl ⟨n :: above, name :: dir, id, hsource, locate_eq_file_iff.2 ⟨hseat, hnode⟩⟩⟩
  · obtain ⟨hold, hfile⟩ := locate_eq_file_iff.1 hsource
    have hcleared := (sameDirectories_spent d).trans
      (sameDirectories_clearNode (d := d.spent) (node?_ne_directory hfile))
    have hfree : (d.spent.clearNode (n :: above)).node? (name :: dir) ≠ some .directory :=
      node?_of_seat? ((seat?_congr hcleared target).symm.trans hseat)
    refine ⟨hcleared.trans (sameDirectories_setNode_file id hfree), fun place hs ht => ?_,
      .inr fun place hs ht => ?_⟩
    · rw [node?_setNode, if_neg, node?_clearNode, if_neg, node?_spent]
      · rintro rfl
        exact hs hold
      · rintro rfl
        exact ht hseat
    · rw [hold] at hs
      cases hs
      rw [node?_setNode, if_neg, node?_clearNode, if_pos rfl]
      rintro heq
      exact ht (heq ▸ hseat)

/-! ## What keeps a disk sound -/

namespace Sound

variable {n name : Name} {above dir : Location}

theorem above_seat (h : d.Sound) {p : Path} (hseat : d.seat? p = some (name :: dir)) :
    d.node? dir = some .directory := by
  rcases locate_of_seat? hseat with ⟨id, hnode, -⟩ | ⟨dir', name', heq, -, hlocate⟩
  · exact h.rooted.above hnode
  · cases heq
    exact (h.locate_vacant hlocate).1

/-- Nothing stands below a file, so a file can be taken away. -/
theorem clearNode (h : d.Sound) (hfile : d.node? (n :: above) ≠ some .directory) :
    (d.clearNode (n :: above)).Sound := by
  have hdirs := (sameDirectories_clearNode hfile).node
  refine ⟨h.filed.clearNode n above, ⟨fun {name dir node} hnode => ?_⟩, (hdirs _).1 h.home⟩
  rw [node?_clearNode] at hnode
  split at hnode
  · cases hnode
  · exact (hdirs dir).1 (h.rooted.above hnode)

/-- A file can be given a name in a directory. -/
theorem setNode_file (h : d.Sound) {id : Id} (hdir : d.node? dir = some .directory)
    (hnode : d.node? (name :: dir) ≠ some .directory)
    (hfile : ∃ f, d.file? id = some f ∧ f.discards = false) :
    (d.setNode (name :: dir) (.file id)).Sound := by
  have hdirs := (sameDirectories_setNode_file id hnode).node
  have hcases : ∀ {place : Location} {node : Node},
      (d.setNode (name :: dir) (.file id)).node? place = some node →
        place = name :: dir ∧ node = .file id ∨ d.node? place = some node := by
    intro place node hplace
    rw [node?_setNode] at hplace
    split at hplace
    · rename_i heq
      exact .inl ⟨heq, (Option.some.inj hplace).symm⟩
    · exact .inr hplace
  obtain ⟨f, hf, hkeeps⟩ := hfile
  refine ⟨⟨⟨fun hplace => ?_, h.filed.numbered.file_lt⟩, fun hplace => ?_⟩,
    ⟨fun hplace => (hdirs _).1 ?_⟩, (hdirs _).1 h.home⟩
  · rcases hcases hplace with ⟨-, heq⟩ | hold
    · cases heq
      exact h.filed.numbered.file_lt hf
    · exact h.filed.numbered.node_lt hold
  · rcases hcases hplace with ⟨-, heq⟩ | hold
    · cases heq
      exact ⟨f, hf, fun hdrop => absurd (hkeeps.symm.trans hdrop) Bool.false_ne_true⟩
    · exact h.filed.file hold
  · rcases hcases hplace with ⟨heq, -⟩ | hold
    · cases heq
      exact hdir
    · exact h.rooted.above hold

theorem createFile (h : d.Sound) (p : Path) : (d.createFile p).2.Sound := by
  have hopened := h.openFile p
  unfold Disk.createFile
  generalize d.openFile p = got at hopened ⊢
  obtain ⟨_ | id, e⟩ := got
  · exact hopened
  · exact hopened.rewrites (Rewrites.setContent e id (.plain []))

theorem removeFile (h : d.Sound) (p : Path) : (d.removeFile p).2.Sound := by
  simp only [Disk.removeFile, nextFault_eq, locate_spent]
  cases d.faults.head?.join with
  | some fault => exact h.spent
  | none =>
    simp only
    split
    · exact h.spent
    · exact h.spent
    · exact h.spent
    · rename_i place id hlocate
      split
      · exact h.spent
      · have hnode := (locate_eq_file_iff.1 hlocate).2
        cases place with
        | nil => cases hnode
        | cons n above => exact h.spent.clearNode (node?_ne_directory hnode)

/-- Renaming keeps a disk sound unless it moves the null device. -/
theorem rename (h : d.Sound) {source target : Path}
    (hnull : ∀ id, d.locate source ≠ .ok (.file nullDevice id)) :
    (d.rename source target).2.Sound := by
  cases hrename : d.rename source target with
  | mk result e =>
    cases result with
    | error fault =>
      rw [rename_eq_error hrename]
      exact h.spent
    | ok _ =>
      obtain ⟨-, n, above, id, name, dir, hsource, hseat, ⟨-, rfl⟩ | rfl⟩ := rename_eq_ok hrename
      · exact h.spent
      · have hold := (locate_eq_file_iff.1 hsource).2
        have hfile : d.spent.node? (n :: above) ≠ some .directory := node?_ne_directory hold
        have hdirs := (sameDirectories_clearNode hfile).node
        obtain ⟨f, hf, hdiscards⟩ := h.filed.file hold
        refine (h.spent.clearNode hfile).setNode_file ((hdirs dir).1 (h.above_seat hseat)) ?_
          ⟨f, hf, Bool.eq_false_iff.2 fun hdrop => hnull id ?_⟩
        · rw [Ne, ← hdirs]
          exact node?_of_seat? ((seat?_spent d target).trans hseat)
        · rw [hsource, hdiscards hdrop]

end Sound

end Disk

namespace Buffered

variable {id : Id} {d e : Disk} {pending more buffer piece : Bytes}
  {got : Except Fault Unit × Bytes × Disk}

/-- Whether an outcome carries pending bytes on: it touches no other file and, if it is a success,
puts them after what the file held, as far as they are not in the buffer. -/
structure Carries (id : Id) (d : Disk) (pending : Bytes)
    (got : Except Fault Unit × Bytes × Disk) : Prop where
  rewrites : Disk.Rewrites id d got.2.2
  holds : ∀ {bytes : Bytes}, d.Holds id bytes → got.1 = .ok () →
    ∃ written, got.2.2.Holds id written ∧ written ++ got.2.1 = bytes ++ pending

namespace Carries

theorem keep (id : Id) (d : Disk) (buffer : Bytes) : Carries id d buffer (.ok (), buffer, d) :=
  ⟨Disk.Rewrites.refl id d, fun h _ => ⟨_, h, rfl⟩⟩

theorem fail {fault : Fault} (h : Disk.Rewrites id d e) :
    Carries id d pending (.error fault, buffer, e) :=
  ⟨h, nofun⟩

theorem write (h : d.append id piece = (.ok (), e)) : Carries id d piece (.ok (), [], e) := by
  have hrewrites := Disk.rewrites_append d id piece
  rw [h] at hrewrites
  exact ⟨hrewrites, fun hholds _ => ⟨_, hholds.append h, List.append_nil _⟩⟩

theorem trans (h : Carries id d pending (.ok (), buffer, e))
    (h' : Carries id e (buffer ++ more) got) : Carries id d (pending ++ more) got := by
  refine ⟨h.rewrites.trans h'.rewrites, fun {bytes} hholds hok => ?_⟩
  obtain ⟨middle, hmiddle, hsum⟩ := h.holds hholds rfl
  obtain ⟨written, hwritten, htotal⟩ := h'.holds hmiddle hok
  refine ⟨written, hwritten, ?_⟩
  rw [htotal, ← List.append_assoc, hsum, List.append_assoc]

end Carries

theorem carries_drain (id : Id) (buffer : Bytes) (d : Disk) :
    Carries id d buffer (drain id buffer d) := by
  have hrewrites := Disk.rewrites_append d id buffer
  unfold drain
  split
  · rename_i hempty
    rw [List.isEmpty_iff.1 hempty]
    exact Carries.keep id d []
  · cases happend : d.append id buffer with
    | mk result e =>
      rw [happend] at hrewrites
      cases result with
      | error fault => exact Carries.fail hrewrites
      | ok _ => exact Carries.write happend

theorem drain_eq_ok (h : (drain id buffer d).1 = .ok ()) : (drain id buffer d).2.1 = [] := by
  unfold drain at h ⊢
  split
  · rfl
  · rename_i hfull
    rw [if_neg hfull] at h
    generalize d.append id buffer = got at h ⊢
    obtain ⟨_ | _, e⟩ := got
    · cases h
    · rfl

/-- What is in the file and the buffer after a piece was put is what was there before, then the
piece. -/
theorem carries_put (id : Id) (buffer piece : Bytes) (d : Disk) :
    Carries id d (buffer ++ piece) (put id buffer piece d) := by
  unfold put
  dsimp only
  split
  · exact Carries.keep id d (buffer ++ piece)
  -- A piece that fits into no buffer overtakes nothing: the buffer is empty by then.
  have hroom : ∀ room, room = (if capacity - buffer.length < piece.length then drain id buffer d
      else (.ok (), buffer, d)) →
      Carries id d buffer room ∧ (capacity ≤ piece.length → room.1 = .ok () → room.2.1 = []) := by
    rintro room rfl
    split
    · exact ⟨carries_drain id buffer d, fun _ => drain_eq_ok⟩
    · refine ⟨Carries.keep id d buffer, fun hlong _ => ?_⟩
      have hcapacity : capacity = 8192 := rfl
      have hlength : buffer.length = 0 := by omega
      exact List.eq_nil_of_length_eq_zero hlength
  obtain ⟨hcarries, hempty⟩ := hroom _ rfl
  generalize (if capacity - buffer.length < piece.length then drain id buffer d
    else (.ok (), buffer, d)) = room at hcarries hempty ⊢
  obtain ⟨_ | _, buffer', e⟩ := room
  · exact Carries.fail hcarries.rewrites
  · dsimp only
    split
    · rename_i hlong
      obtain rfl : buffer' = [] := hempty hlong rfl
      have hrewrites := Disk.rewrites_append e id piece
      cases happend : e.append id piece with
      | mk result f =>
        rw [happend] at hrewrites
        cases result with
        | error fault => exact Carries.fail (hcarries.rewrites.trans hrewrites)
        | ok _ => exact hcarries.trans (Carries.write happend)
    · exact hcarries.trans (Carries.keep id e (buffer' ++ piece))

theorem carries_putAll (id : Id) (pieces : List Bytes) (buffer : Bytes) (d : Disk) :
    Carries id d (buffer ++ pieces.flatten) (putAll id pieces buffer d) := by
  induction pieces generalizing buffer d with
  | nil =>
    rw [List.flatten_nil, List.append_nil]
    exact Carries.keep id d buffer
  | cons piece rest ih =>
    have hfirst := carries_put id buffer piece d
    rw [putAll, List.flatten_cons, ← List.append_assoc]
    generalize put id buffer piece d = got at hfirst ⊢
    obtain ⟨_ | _, buffer', e⟩ := got
    · exact Carries.fail hfirst.rewrites
    · exact hfirst.trans (ih buffer' e)

theorem carries_pour (id : Id) (pieces : List Bytes) (d : Disk) :
    Carries id d pieces.flatten (pour id pieces d) := by
  have hput := carries_putAll id pieces [] d
  unfold pour
  rw [List.nil_append] at hput
  generalize putAll id pieces [] d = got at hput ⊢
  obtain ⟨_ | _, buffer, e⟩ := got
  · exact Carries.fail hput.rewrites
  · have hdrain : Carries id e (buffer ++ []) (drain id buffer e) := by
      rw [List.append_nil]
      exact carries_drain id buffer e
    have hall := hput.trans hdrain
    rwa [List.append_nil] at hall

theorem pour_eq_ok {pieces : List Bytes} (h : (pour id pieces d).1 = .ok ()) :
    (pour id pieces d).2.1 = [] := by
  unfold pour at h ⊢
  generalize putAll id pieces [] d = got at h ⊢
  obtain ⟨_ | _, buffer, e⟩ := got
  · cases h
  · exact drain_eq_ok h

theorem rewrites_writeAll (id : Id) (pieces : List Bytes) (d : Disk) :
    Disk.Rewrites id d (writeAll id pieces d).2 := by
  have hpour := (carries_pour id pieces d).rewrites
  unfold writeAll
  generalize pour id pieces d = got at hpour ⊢
  obtain ⟨_ | _, buffer, e⟩ := got
  · exact hpour.trans (carries_drain id buffer e).rewrites
  · exact hpour

/-- Once everything went well, the file holds the pieces after what it held before. -/
theorem writeAll_holds {pieces : List Bytes} {bytes : Bytes} (h : d.Holds id bytes)
    (hok : writeAll id pieces d = (.ok (), e)) : e.Holds id (bytes ++ pieces.flatten) := by
  have hpour := (carries_pour id pieces d).holds h
  have hempty := @pour_eq_ok id d pieces
  unfold writeAll at hok
  generalize pour id pieces d = got at hok hpour hempty
  obtain ⟨_ | _, buffer, f⟩ := got
  · cases hok
  · cases hok
    obtain ⟨written, hwritten, hsum⟩ := hpour rfl
    obtain rfl : buffer = [] := hempty rfl
    rw [List.append_nil] at hsum
    rwa [← hsum]

end Buffered

end SqlReplay.Storage
