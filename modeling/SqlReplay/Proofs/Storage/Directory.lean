import SqlReplay.Proofs.Storage.Tree

/-!
# Files in a directory

Where a path leads that names an entry of a directory (`Disk.locate_join`), what removing the entry
comes to (`Disk.removeFile_join`), and what can be read where (`Disk.read_eq_ok`).
-/

namespace SqlReplay.Storage

namespace Path

/-! ## Components -/

theorem cutFrom_append_slash (part xs ys : Bytes) :
    cutFrom part (xs ++ slash :: ys) = cutFrom part xs ++ cutFrom [] ys := by
  induction xs generalizing part with
  | nil => simp only [List.nil_append, cutFrom, if_true, List.singleton_append]
  | cons b bs ih =>
    simp only [List.cons_append, cutFrom]
    split
    · rw [ih, List.cons_append]
    · exact ih _

theorem cutFrom_of_not_mem {bytes : Bytes} (h : slash ∉ bytes) (part : Bytes) :
    cutFrom part bytes = [part.reverse ++ bytes] := by
  induction bytes generalizing part with
  | nil => simp only [cutFrom, List.append_nil]
  | cons b bs ih =>
    rw [List.mem_cons, not_or] at h
    rw [cutFrom, if_neg fun e => h.1 e.symm, ih h.2, List.reverse_cons, List.append_assoc]
    rfl

/-- A name that an entry of a directory can have. -/
structure EntryName (name : Bytes) : Prop where
  nonempty : name ≠ []
  slash_not_mem : slash ∉ name
  zero_not_mem : 0 ∉ name
  ne_dot : name ≠ [dot]
  ne_dots : name ≠ [dot, dot]

namespace EntryName

variable {name : Bytes} (h : EntryName name) (dir : Path)
include h

theorem not_isAbsolute : isAbsolute ⟨name⟩ = false := by
  unfold isAbsolute
  cases name with
  | nil => rfl
  | cons b bs =>
    have hb : b ≠ slash := fun e => h.slash_not_mem (e ▸ List.mem_cons_self)
    simp only [List.head?_cons, Option.some.injEq, hb, decide_false]

/-- An entry's path is the directory's, a slash unless there is one, and the name. -/
theorem join_bytes : (dir.join ⟨name⟩).bytes = dir.bytes ++ name ∧ (dir.bytes = [] ∨
      ∃ above, dir.bytes = above ++ [slash]) ∨
    (dir.join ⟨name⟩).bytes = dir.bytes ++ slash :: name := by
  rw [join, if_neg (by rw [h.not_isAbsolute]; exact Bool.false_ne_true)]
  by_cases hempty : dir.isEmpty = true
  · rw [if_pos (by rw [hempty, Bool.true_or])]
    exact Or.inl ⟨rfl, Or.inl (List.isEmpty_iff.1 hempty)⟩
  by_cases hslash : dir.hasTrailingSlash = true
  · rw [if_pos (by rw [hslash, Bool.or_true])]
    have hlast := of_decide_eq_true hslash
    obtain ⟨above, habove⟩ := List.getLast?_eq_some_iff.1 hlast
    exact Or.inl ⟨rfl, Or.inr ⟨above, habove⟩⟩
  · rw [if_neg (by rw [Bool.not_eq_true] at hempty hslash; rw [hempty, hslash]; decide)]
    exact Or.inr rfl

theorem components_join : (dir.join ⟨name⟩).components = dir.components ++ [name] := by
  have hname : (cutFrom [] name).filter (fun c => !c.isEmpty) = [name] := by
    have hne := h.nonempty
    rw [cutFrom_of_not_mem h.slash_not_mem, List.reverse_nil, List.nil_append]
    cases name with
    | nil => exact absurd rfl hne
    | cons b bs => rfl
  unfold components
  rcases h.join_bytes dir with ⟨hbytes, hdir | ⟨above, hdir⟩⟩ | hbytes
  · rw [hbytes, hdir, List.nil_append, hname]
    rfl
  · rw [hbytes, hdir, List.append_assoc, List.singleton_append, cutFrom_append_slash,
      cutFrom_append_slash, List.filter_append, List.filter_append, hname]
    simp only [cutFrom, List.reverse_nil, List.filter_cons, List.isEmpty_nil, Bool.not_true,
      Bool.false_eq_true, if_false, List.filter_nil, List.append_nil]
  · rw [hbytes, cutFrom_append_slash, List.filter_append, hname]

theorem isAbsolute_join : (dir.join ⟨name⟩).isAbsolute = dir.isAbsolute := by
  have hhead : dir.bytes = [] ∨ ∃ b bs, dir.bytes = b :: bs := by
    cases dir.bytes with
    | nil => exact Or.inl rfl
    | cons b bs => exact Or.inr ⟨b, bs, rfl⟩
  rcases hhead with hdir | ⟨b, bs, hdir⟩
  · have hjoin : dir.join ⟨name⟩ = ⟨name⟩ := by
      rw [join, if_neg (by rw [h.not_isAbsolute]; exact Bool.false_ne_true), isEmpty, hdir,
        if_pos (by rfl), List.nil_append]
    rw [hjoin, h.not_isAbsolute, isAbsolute, hdir]
    rfl
  · unfold isAbsolute
    rcases h.join_bytes dir with ⟨hbytes, -⟩ | hbytes
    all_goals
      rw [hbytes, hdir]
      rfl

theorem hasTrailingSlash_join : (dir.join ⟨name⟩).hasTrailingSlash = false := by
  have hlast : ∀ front : Bytes, (front ++ name).getLast? ≠ some slash := by
    intro front e
    rw [List.getLast?_append] at e
    cases hlast : name.getLast? with
    | none => exact h.nonempty (List.getLast?_eq_none_iff.1 hlast)
    | some b =>
      rw [hlast, Option.some_or] at e
      exact h.slash_not_mem (Option.some.inj e ▸ List.mem_of_getLast? hlast)
  unfold hasTrailingSlash
  rw [decide_eq_false_iff_not]
  rcases h.join_bytes dir with ⟨hbytes, -⟩ | hbytes
  · rw [hbytes]
    exact hlast _
  · rw [hbytes, List.append_cons]
    exact hlast _

theorem zero_mem_join_iff : (0 : UInt8) ∈ (dir.join ⟨name⟩).bytes ↔ 0 ∈ dir.bytes := by
  have hzero : (0 : UInt8) ≠ slash := by decide
  rcases h.join_bytes dir with ⟨hbytes, -⟩ | hbytes
  all_goals
    rw [hbytes]
    simp [h.zero_not_mem, hzero]

theorem join_nonempty : (dir.join ⟨name⟩).isEmpty = false := by
  have hne := h.nonempty
  unfold isEmpty
  rcases h.join_bytes dir with ⟨hbytes, -⟩ | hbytes
  all_goals
    rw [hbytes]
    cases name with
    | nil => exact absurd rfl hne
    | cons b bs => cases dir.bytes <;> rfl

/-- Bytes put after an entry's path are put after its name. -/
theorem withSuffix_join (suffix : String) :
    (dir.join ⟨name⟩).withSuffix suffix = dir.join ⟨name ++ Utf8.ofString suffix⟩ := by
  have hne := h.nonempty
  have habsolute : isAbsolute ⟨name ++ Utf8.ofString suffix⟩ = false := by
    rw [← h.not_isAbsolute]
    cases name with
    | nil => exact absurd rfl hne
    | cons b bs => rfl
  rw [join, join, h.not_isAbsolute, habsolute]
  simp only [Bool.false_eq_true, if_false, withSuffix]
  split
  · rw [List.append_assoc]
  · rw [List.append_assoc, List.cons_append]

end EntryName

end Path

namespace Disk

/-! ## Walking to a directory -/

theorem walk_append {d : Disk} {here place : Location} {names : List Name}
    (h : d.walk here names = .ok (.directory place)) (more : List Name) :
    d.walk here (names ++ more) = d.walk place more := by
  induction names generalizing here with
  | nil =>
    cases h
    rfl
  | cons name rest ih =>
    rw [List.cons_append]
    simp only [walk] at h ⊢
    split_ifs at h ⊢
    · exact ih h
    · exact ih h
    all_goals
      cases hnode : d.node? (name :: here) with
      | none =>
        rw [hnode] at h
        cases h
      | some node =>
        rw [hnode] at h
        cases node with
        | directory => exact ih h
        | file id => cases h

theorem walk_directory_congr {d e : Disk} (hde : SameDirectories d e) {here place : Location}
    {names : List Name} (h : d.walk here names = .ok (.directory place)) :
    e.walk here names = .ok (.directory place) := by
  induction names generalizing here with
  | nil => exact h
  | cons name rest ih =>
    simp only [walk] at h ⊢
    split_ifs at h ⊢
    · exact ih h
    · exact ih h
    all_goals
      cases hnode : d.node? (name :: here) with
      | none =>
        rw [hnode] at h
        cases h
      | some node =>
        rw [hnode] at h
        cases node with
        | directory =>
          rw [(hde.node _).1 hnode]
          exact ih h
        | file id => cases h

/-! ## Entries -/

/-- Whether a directory's path leads to a place.  The empty path stands for the one where paths
begin. -/
def Enters (d : Disk) (dir : Path) (place : Location) : Prop :=
  dir.isEmpty = true ∧ place = d.home ∨ d.locate dir = .ok (.directory place)

theorem Enters.walk {d : Disk} {dir : Path} {place : Location} (h : d.Enters dir place) :
    dir.bytes.contains 0 = false ∧
      d.walk (if dir.isAbsolute then [] else d.home) dir.components = .ok (.directory place) := by
  rcases h with ⟨hempty, rfl⟩ | h
  · obtain ⟨bytes⟩ := dir
    obtain rfl : bytes = [] := List.isEmpty_iff.1 hempty
    exact ⟨rfl, rfl⟩
  · unfold locate at h
    by_cases hzero : dir.bytes.contains 0 = true
    · rw [if_pos hzero] at h
      cases h
    rw [if_neg hzero] at h
    by_cases hempty : dir.isEmpty = true
    · rw [if_pos hempty] at h
      cases h
    rw [if_neg hempty] at h
    by_cases hlong : 4096 ≤ dir.bytes.length
    · rw [if_pos hlong] at h
      cases h
    rw [if_neg hlong] at h
    exact ⟨Bool.not_eq_true _ ▸ hzero, h⟩

theorem locate_directory_congr {d e : Disk} (hde : SameDirectories d e) {p : Path}
    {place : Location} (h : d.locate p = .ok (.directory place)) :
    e.locate p = .ok (.directory place) := by
  unfold locate at h ⊢
  rw [← hde.home]
  split_ifs at h ⊢
  all_goals exact walk_directory_congr hde h

theorem Enters.congr {d e : Disk} (hde : SameDirectories d e) {dir : Path} {place : Location}
    (h : d.Enters dir place) : e.Enters dir place := by
  rcases h with ⟨hempty, rfl⟩ | h
  · exact Or.inl ⟨hempty, hde.home⟩
  · exact Or.inr (locate_directory_congr hde h)

section Entry

variable {d : Disk} {dir : Path} {place : Location} {name : Name}

/-- Whether the path or the name of an entry is longer than the system takes. -/
def tooLong (dir : Path) (name : Name) : Prop :=
  4096 ≤ (dir.join ⟨name⟩).bytes.length ∨ 255 < name.length

instance (dir : Path) (name : Name) : Decidable (tooLong dir name) :=
  inferInstanceAs (Decidable (_ ∨ _))

/-- An entry's path leads to what stands in the directory under its name. -/
theorem locate_join (h : d.Enters dir place) (hn : Path.EntryName name) :
    d.locate (dir.join ⟨name⟩) =
      if tooLong dir name then .error .nameTooLong
      else match d.node? (name :: place) with
        | some .directory => .ok (.directory (name :: place))
        | some (.file id) => .ok (.file (name :: place) id)
        | none => .ok (.vacant place name) := by
  obtain ⟨hzero, hwalk⟩ := h.walk
  have hzero' : (dir.join ⟨name⟩).bytes.contains 0 = false := by
    rw [List.contains_eq_mem, decide_eq_false_iff_not] at hzero ⊢
    rwa [hn.zero_mem_join_iff]
  unfold locate
  rw [hzero', hn.join_nonempty, hn.components_join, hn.isAbsolute_join, walk_append hwalk]
  simp only [Bool.false_eq_true, if_false, Disk.walk, hn.ne_dot, hn.ne_dots, List.isEmpty_nil,
    if_true]
  by_cases hpath : 4096 ≤ (dir.join ⟨name⟩).bytes.length
  · have hlong : tooLong dir name := Or.inl hpath
    rw [if_pos hpath, if_pos hlong]
  · by_cases hname : 255 < name.length
    · have hlong : tooLong dir name := Or.inr hname
      rw [if_neg hpath, if_pos hname, if_pos hlong]
    · have hlong : ¬ tooLong dir name := not_or.2 ⟨hpath, hname⟩
      refine (if_neg hpath).trans ((if_neg hname).trans (Eq.trans ?_ (if_neg hlong).symm))
      rcases d.node? (name :: place) with _ | _ | id <;> rfl

theorem seat?_join (h : d.Enters dir place) (hn : Path.EntryName name)
    (hlong : ¬ tooLong dir name) (hnode : d.node? (name :: place) ≠ some .directory) :
    d.seat? (dir.join ⟨name⟩) = some (name :: place) := by
  unfold seat?
  rw [locate_join h hn, if_neg hlong]
  rcases hfound : d.node? (name :: place) with _ | _ | id
  · rfl
  · exact absurd hfound hnode
  · rfl

/-- Removing an entry. -/
theorem removeFile_join (h : d.Enters dir place) (hn : Path.EntryName name) :
    d.removeFile (dir.join ⟨name⟩) =
      match d.faults.head?.join with
      | some fault => (.error fault, d.spent)
      | none =>
        if tooLong dir name then (.error .nameTooLong, d.spent)
        else match d.node? (name :: place) with
          | some .directory => (.error .isDirectory, d.spent)
          | some (.file _) => (.ok (), d.spent.clearNode (name :: place))
          | none => (.error .missing, d.spent) := by
  simp only [removeFile, nextFault_eq, locate_spent, locate_join h hn,
    hn.hasTrailingSlash_join, Bool.false_eq_true, if_false]
  cases d.faults.head?.join with
  | some fault => rfl
  | none =>
    simp only
    by_cases hlong : tooLong dir name
    · rw [if_pos hlong, if_pos hlong]
    · rw [if_neg hlong, if_neg hlong]
      rcases d.node? (name :: place) with _ | _ | id <;> rfl

end Entry

/-! ## Reading -/

theorem read_eq_ok {d : Disk} {p : Path} {content : Content} :
    d.read p = .ok content ↔ p.hasTrailingSlash = false ∧ ∃ place id f,
      d.locate p = .ok (.file place id) ∧ d.file? id = some f ∧ f.content = content := by
  constructor
  · intro h
    simp only [read, find] at h
    cases hlocate : d.locate p with
    | error fault => simp only [hlocate, reduceCtorEq] at h
    | ok spot =>
      cases spot with
      | directory place => simp only [hlocate, reduceCtorEq] at h
      | vacant dir name => simp only [hlocate, reduceCtorEq] at h
      | file place id =>
        simp only [hlocate] at h
        cases hslash : p.hasTrailingSlash with
        | true => simp only [hslash, if_true, reduceCtorEq] at h
        | false =>
          simp only [hslash, Bool.false_eq_true, if_false] at h
          cases hfile : d.file? id with
          | none => simp only [hfile, reduceCtorEq] at h
          | some f =>
            simp only [hfile, Except.ok.injEq] at h
            exact ⟨rfl, place, id, f, rfl, hfile, h⟩
  · rintro ⟨hslash, place, id, f, hlocate, hfile, hcontent⟩
    simp only [read, find, hlocate, hslash, Bool.false_eq_true, if_false, hfile, hcontent]

theorem contains_of_read {d : Disk} {p : Path} {content : Content} (h : d.read p = .ok content) :
    d.contains p = true := by
  unfold read at h
  unfold contains
  cases hfind : d.find p with
  | error fault =>
    simp only [hfind] at h
    cases h
  | ok spot => rfl

theorem node?_of_walk_file {d : Disk} {here place : Location} {names : List Name} {id : Id}
    (h : d.walk here names = .ok (.file place id)) : d.node? place = some (.file id) := by
  have hseat : (d.walk here names).toOption.bind Spot.seat? = some place := by
    rw [h]
    rfl
  rcases walk_of_seat? hseat with ⟨other, hnode, hfile⟩ | ⟨dir, name, -, -, hvacant⟩
  · rw [h] at hfile
    cases hfile
    exact hnode
  · rw [h] at hvacant
    cases hvacant

theorem node?_of_seat? {d : Disk} {p : Path} {place : Location} (h : d.seat? p = some place) :
    d.node? place ≠ some .directory := by
  intro hdir
  rcases locate_of_seat? h with ⟨_, hnode, -⟩ | ⟨_, _, -, hnode, -⟩ <;>
    rw [hdir] at hnode <;> cases hnode

/-- A path leads to a file if its seat is the place of one. -/
theorem locate_eq_file_iff {d : Disk} {p : Path} {place : Location} {id : Id} :
    d.locate p = .ok (.file place id) ↔
      d.seat? p = some place ∧ d.node? place = some (.file id) := by
  constructor
  · intro h
    refine ⟨by rw [seat?, h]; rfl, ?_⟩
    unfold locate at h
    split_ifs at h <;> exact node?_of_walk_file h
  · rintro ⟨hseat, hnode⟩
    rcases locate_of_seat? hseat with ⟨other, hfile, hlocate⟩ | ⟨dir, name, -, hnone, -⟩
    · rw [hnode] at hfile
      cases hfile
      exact hlocate
    · rw [hnode] at hnone
      cases hnone

/-- What a file holds can be read wherever it is held, unless that is nothing. -/
theorem read_of_holds {d e : Disk} {p : Path} {place : Location} {content : Content}
    (hdirs : SameDirectories d e) (hread : d.read p = .ok content)
    (hseat : d.seat? p = some place) (hholds : d.holds place = e.holds place)
    (hcontent : content ≠ .plain []) : e.read p = .ok content := by
  obtain ⟨hslash, found, id, f, hlocate, hfile, hin⟩ := read_eq_ok.1 hread
  obtain ⟨hfound, hnode⟩ := locate_eq_file_iff.1 hlocate
  obtain rfl : found = place := Option.some.inj (hfound.symm.trans hseat)
  have hold : e.holds found = content := by
    rw [← hholds, holds_of_file hnode, contentOf, hfile]
    exact hin
  rcases locate_of_seat? ((seat?_congr hdirs p).symm.trans hseat) with
    ⟨other, hnode', hlocate'⟩ | ⟨dir, name, -, hnode', -⟩
  · rw [holds_of_file hnode'] at hold
    cases hfile' : e.file? other with
    | none =>
      rw [contentOf, hfile'] at hold
      exact absurd hold.symm hcontent
    | some f' =>
      rw [contentOf, hfile'] at hold
      exact read_eq_ok.2 ⟨hslash, found, other, f', hlocate', hfile', hold⟩
  · rw [holds_of_none hnode'] at hold
    exact absurd hold.symm hcontent

end Disk

end SqlReplay.Storage
