import SqlReplay.Proofs.Storage.Directory
import SqlReplay.Replay.Target

/-!
# The files of a database

A database has four files, all entries of the data directory (`databaseFiles_eq`).  Dropping them
leaves nothing at their places and everything else as it was (`dropFiles_eq_ok`).  Whether they can
be dropped depends on the directories alone and not on which of the files there are
(`dropFiles_congr`).
-/

namespace SqlReplay.Replay

open Storage

/-! ## Names -/

/-- The names of the files of a database. -/
def fileNames (database : String) : List Name :=
  let main := Utf8.ofString (database ++ ".sqlite3")
  main :: sidecarSuffixes.map fun suffix => main ++ Utf8.ofString suffix

theorem checkDatabaseName_eq_ok {name : String} (h : checkDatabaseName name = .ok ()) :
    ∀ c ∈ name.toList, isDatabaseNameChar c = true := by
  unfold checkDatabaseName at h
  split at h
  · cases h
  · split at h
    · rename_i hall
      exact List.all_eq_true.1 hall
    · cases h

theorem isDatabaseNameChar_bounds {c : Char} (h : isDatabaseNameChar c = true) :
    48 ≤ c.val.toNat ∧ c.val.toNat ≤ 122 := by
  have hclass : (decide (c.val ≥ 65 ∧ c.val ≤ 90) ||
      (decide (c.val ≥ 97) && decide (c.val ≤ 122)) ||
      (decide (c.val ≥ 48) && decide (c.val ≤ 57)) || decide (c = '_')) = true := h
  simp only [Bool.or_eq_true, Bool.and_eq_true, decide_eq_true_eq, ge_iff_le,
    UInt32.le_iff_toNat_le] at hclass
  rcases hclass with ((⟨h, h'⟩ | ⟨h, h'⟩) | ⟨h, h'⟩) | rfl
  · exact ⟨Nat.le_trans (by decide) h, Nat.le_trans h' (by decide)⟩
  · exact ⟨Nat.le_trans (by decide) h, h'⟩
  · exact ⟨h, Nat.le_trans h' (by decide)⟩
  · decide

/-- The bytes of a database name lie between those of the digit zero and the letter z. -/
theorem bytes_bounds {name : String} (h : checkDatabaseName name = .ok ()) :
    ∀ b ∈ Utf8.ofString name, 48 ≤ b.toNat := by
  intro b hb
  obtain ⟨c, hc, hb⟩ := List.mem_flatMap.1 hb
  obtain ⟨hlow, hhigh⟩ := isDatabaseNameChar_bounds (checkDatabaseName_eq_ok h c hc)
  have hsize : c.utf8Size = 1 :=
    Char.utf8Size_eq_one_iff.2 (UInt32.le_iff_toNat_le.2 (Nat.le_trans hhigh (by decide)))
  rw [String.utf8EncodeChar_eq_singleton hsize, List.mem_singleton] at hb
  rw [hb, UInt32.toNat_toUInt8]
  omega

theorem ofString_append (a b : String) :
    Utf8.ofString (a ++ b) = Utf8.ofString a ++ Utf8.ofString b := by
  simp only [Utf8.ofString, Utf8.encode, String.toList_append, List.flatMap_append]

/-- Bytes without a slash or a zero are an entry's name if there are more than two. -/
theorem entryName_of_bytes {name : Name} (hlength : 2 < name.length)
    (h : ∀ b ∈ name, b ≠ Path.slash ∧ b ≠ 0) : Path.EntryName name where
  nonempty e := by simp [e] at hlength
  slash_not_mem hmem := (h _ hmem).1 rfl
  zero_not_mem hmem := (h _ hmem).2 rfl
  ne_dot e := by simp [e] at hlength
  ne_dots e := by simp [e] at hlength

theorem mem_fileNames {database : String} {name : Name} (h : name ∈ fileNames database) :
    ∃ suffix ∈ ["", "-wal", "-shm", "-journal"],
      name = Utf8.ofString database ++ Utf8.ofString ".sqlite3" ++ Utf8.ofString suffix := by
  simp only [fileNames, sidecarSuffixes, List.map_cons, List.map_nil, List.mem_cons,
    List.not_mem_nil, or_false, ofString_append] at h
  rcases h with h | h | h | h
  · exact ⟨"", by simp, by rw [h]; exact (List.append_nil _).symm⟩
  · exact ⟨"-wal", by simp, h⟩
  · exact ⟨"-shm", by simp, h⟩
  · exact ⟨"-journal", by simp, h⟩

/-- The files of a database with a proper name are entries of one directory. -/
theorem entryName_of_mem {database : String} (h : checkDatabaseName database = .ok ())
    {name : Name} (hname : name ∈ fileNames database) : Path.EntryName name := by
  obtain ⟨suffix, hsuffix, rfl⟩ := mem_fileNames hname
  have hending : ∀ suffix ∈ ["", "-wal", "-shm", "-journal"],
      ∀ b ∈ Utf8.ofString ".sqlite3" ++ Utf8.ofString suffix, b ≠ Path.slash ∧ b ≠ 0 := by
    decide +kernel
  refine entryName_of_bytes ?_ fun b hb => ?_
  · have hlength : (Utf8.ofString ".sqlite3").length = 8 := by decide
    simp only [List.length_append, hlength]
    omega
  · rw [List.append_assoc, List.mem_append] at hb
    rcases hb with hb | hb
    · have hbound := bytes_bounds h b hb
      constructor
      all_goals
        rintro rfl
        revert hbound
        decide
    · exact hending suffix hsuffix b hb

theorem databaseFiles_eq (dataDir : Path) {database : String}
    (h : checkDatabaseName database = .ok ()) :
    databaseFiles dataDir database =
      (fileNames database).map fun name => dataDir.join ⟨name⟩ := by
  have hmain := entryName_of_mem h
    (List.mem_cons_self (a := Utf8.ofString (database ++ ".sqlite3")))
  have hpath : databaseFile dataDir database =
      dataDir.join ⟨Utf8.ofString (database ++ ".sqlite3")⟩ := rfl
  simp only [databaseFiles, fileNames, hpath, List.map_cons, List.map_map]
  congr 1
  exact List.map_congr_left fun suffix _ => hmain.withSuffix_join dataDir suffix

/-! ## Dropping files -/

/-- Whether a disk is another one without the files at some places. -/
structure Cleared (places : List Location) (d e : Disk) : Prop where
  directories : Disk.SameDirectories d e
  nextId : e.nextId = d.nextId
  file? : ∀ id, e.file? id = d.file? id
  gone : ∀ place ∈ places, e.node? place = none
  rest : ∀ place, place ∉ places → e.node? place = d.node? place
  faults : e.faults <:+ d.faults

namespace Cleared

variable {places : List Location} {d e f : Disk}

theorem refl (d : Disk) : Cleared [] d d :=
  ⟨Disk.SameDirectories.refl d, rfl, fun _ => rfl, nofun, fun _ _ => rfl, List.suffix_refl _⟩

theorem nil_spent (d : Disk) : Cleared [] d d.spent :=
  ⟨Disk.sameDirectories_spent d, rfl, fun _ => rfl, nofun, fun _ _ => rfl, List.tail_suffix _⟩

/-- One place that is vacant already. -/
theorem of_spent {place : Location} (h : d.node? place = none) : Cleared [place] d d.spent where
  directories := Disk.sameDirectories_spent d
  nextId := rfl
  file? _ := rfl
  gone _ hother := List.mem_singleton.1 hother ▸ h
  rest _ _ := rfl
  faults := List.tail_suffix _

/-- One place with a file. -/
theorem of_clearNode {name : Name} {dir : Location}
    (h : d.node? (name :: dir) ≠ some .directory) :
    Cleared [name :: dir] d (d.spent.clearNode (name :: dir)) where
  directories := (Disk.sameDirectories_spent d).trans (Disk.sameDirectories_clearNode h)
  nextId := rfl
  file? _ := rfl
  gone other hother := by rw [List.mem_singleton.1 hother, Disk.node?_clearNode, if_pos rfl]
  rest other hother := by
    rw [Disk.node?_clearNode, if_neg fun e => hother (List.mem_singleton.2 e), Disk.node?_spent]
  faults := List.tail_suffix _

theorem faults_nil (h : Cleared places d e) (hd : d.faults = []) : e.faults = [] :=
  List.suffix_nil.1 (hd ▸ h.faults)

theorem cons {place : Location} (h : Cleared [place] d e) (h' : Cleared places e f) :
    Cleared (place :: places) d f where
  directories := h.directories.trans h'.directories
  nextId := h'.nextId.trans h.nextId
  file? id := (h'.file? id).trans (h.file? id)
  gone other hother := by
    by_cases hmem : other ∈ places
    · exact h'.gone other hmem
    · rw [h'.rest other hmem]
      exact h.gone other (List.mem_singleton.2 ((List.mem_cons.1 hother).resolve_right hmem))
  rest other hother := by
    rw [List.mem_cons, not_or] at hother
    rw [h'.rest other hother.2, h.rest other fun e => hother.1 (List.mem_singleton.1 e)]
  faults := h'.faults.trans h.faults

theorem numbered (h : Cleared places d e) (hd : d.Numbered) : e.Numbered := by
  constructor
  · intro place id hnode
    rw [h.nextId]
    by_cases hmem : place ∈ places
    · rw [h.gone place hmem] at hnode
      cases hnode
    · rw [h.rest place hmem] at hnode
      exact hd.node_lt hnode
  · intro id file hfile
    rw [h.file?] at hfile
    rw [h.nextId]
    exact hd.file_lt hfile

theorem holds (h : Cleared places d e) (place : Location) :
    e.holds place = if place ∈ places then .plain [] else d.holds place := by
  by_cases hmem : place ∈ places
  · rw [if_pos hmem, Disk.holds_of_none (h.gone place hmem)]
  · rw [if_neg hmem]
    unfold Disk.holds
    rw [h.rest place hmem]
    split
    · exact Disk.contentOf_congr (h.file? _)
    · rfl

end Cleared

section Drop

variable {d e : Disk} {dir : Path} {place : Location} {name : Name}

/-- Why an entry of a directory cannot be dropped, if it cannot. -/
def refusal? (d : Disk) (dir : Path) (place : Location) (name : Name) : Option Fault :=
  if Disk.tooLong dir name then some .nameTooLong
  else if d.node? (name :: place) = some .directory then some .isDirectory
  else none

theorem refusal?_congr (h : Disk.SameDirectories d e) (dir : Path) (place : Location)
    (name : Name) : refusal? d dir place name = refusal? e dir place name := by
  simp only [refusal?, h.node (name :: place)]

theorem refusal?_ne_missing {fault : Fault} (h : refusal? d dir place name = some fault) :
    fault ≠ .missing := by
  unfold refusal? at h
  split_ifs at h
  all_goals
    cases h
    decide

theorem removeFile_of_refusal (h : d.Enters dir place) (hn : Path.EntryName name)
    (hnone : d.faults.head?.join = none) {fault : Fault}
    (hrefusal : refusal? d dir place name = some fault) :
    d.removeFile (dir.join ⟨name⟩) = (.error fault, d.spent) := by
  rw [Disk.removeFile_join h hn, hnone]
  unfold refusal? at hrefusal
  split_ifs at hrefusal with hlong hnode
  · cases hrefusal
    simp only [if_pos hlong]
  · cases hrefusal
    simp only [if_neg hlong, hnode]

/-- An entry that is not refused is gone after its removal, also if it was not there. -/
theorem removeFile_of_not_refused (h : d.Enters dir place) (hn : Path.EntryName name)
    (hnone : d.faults.head?.join = none) (hrefusal : refusal? d dir place name = none) :
    ∃ e, Cleared [name :: place] d e ∧ (d.removeFile (dir.join ⟨name⟩) = (.ok (), e) ∨
      d.removeFile (dir.join ⟨name⟩) = (.error .missing, e)) := by
  rw [Disk.removeFile_join h hn, hnone]
  unfold refusal? at hrefusal
  split_ifs at hrefusal with hlong hnode
  simp only [if_neg hlong]
  rcases hfound : d.node? (name :: place) with _ | _ | id
  · exact ⟨_, Cleared.of_spent hfound, Or.inr rfl⟩
  · exact absurd hfound hnode
  · exact ⟨_, Cleared.of_clearNode hnode, Or.inl rfl⟩

theorem not_tooLong_of_not_refused (hrefusal : refusal? d dir place name = none) :
    ¬ Disk.tooLong dir name := by
  unfold refusal? at hrefusal
  split_ifs at hrefusal with hlong
  exact hlong

theorem dropFiles_of_removed {path : Path} (rest : List Path)
    (h : d.removeFile path = (.ok (), e) ∨ d.removeFile path = (.error .missing, e)) :
    Target.dropFiles (path :: rest) d = Target.dropFiles rest e := by
  rcases h with h | h
  · simp only [Target.dropFiles, h]
  · simp only [Target.dropFiles, h, if_true]

theorem dropFiles_of_refused {path : Path} (rest : List Path) {fault : Fault}
    (h : d.removeFile path = (.error fault, e)) (hfault : fault ≠ .missing) :
    Target.dropFiles (path :: rest) d = (.error (.connection "reset_database"
      ("cannot drop " ++ path.display ++ ": " ++ fault.message)), e) := by
  simp only [Target.dropFiles, h, if_neg hfault]

/-- Files that could be dropped are gone, unless a fault lied about one. -/
theorem dropFiles_eq_ok {names : List Name} (h : d.Enters dir place)
    (hnames : ∀ name ∈ names, Path.EntryName name) (hfaults : some Fault.missing ∉ d.faults)
    (hdrop : Target.dropFiles (names.map fun name => dir.join ⟨name⟩) d = (.ok (), e)) :
    Cleared (names.map (· :: place)) d e ∧ ∀ name ∈ names, ¬ Disk.tooLong dir name := by
  induction names generalizing d with
  | nil =>
    cases hdrop
    exact ⟨Cleared.refl e, nofun⟩
  | cons name rest ih =>
    have hname := hnames name List.mem_cons_self
    have hrest := fun n hn => hnames n (List.mem_cons_of_mem name hn)
    rw [List.map_cons] at hdrop
    cases hfault : d.faults.head?.join with
    | some fault =>
      have hne : fault ≠ .missing := fun e => hfaults (e ▸ Disk.mem_faults_of_head? hfault)
      have hremove : d.removeFile (dir.join ⟨name⟩) = (.error fault, d.spent) := by
        rw [Disk.removeFile_join h hname, hfault]
      rw [dropFiles_of_refused _ hremove hne] at hdrop
      cases hdrop
    | none =>
      cases hrefusal : refusal? d dir place name with
      | some fault =>
        have hremove := removeFile_of_refusal h hname hfault hrefusal
        rw [dropFiles_of_refused _ hremove (refusal?_ne_missing hrefusal)] at hdrop
        cases hdrop
      | none =>
        obtain ⟨d', hd', hremove⟩ := removeFile_of_not_refused h hname hfault hrefusal
        rw [dropFiles_of_removed _ hremove] at hdrop
        obtain ⟨hcleared, hshort⟩ := ih (h.congr hd'.directories) hrest
          (fun hmissing => hfaults (hd'.faults.subset hmissing)) hdrop
        refine ⟨hd'.cons hcleared, fun n hn => ?_⟩
        rcases List.mem_cons.1 hn with rfl | hn
        · exact not_tooLong_of_not_refused hrefusal
        · exact hshort n hn

/-- If files could not be dropped and no fault struck, those before one that is refused are gone. -/
theorem dropFiles_eq_error {names : List Name} {fault : Error} (h : d.Enters dir place)
    (hnames : ∀ name ∈ names, Path.EntryName name) (hd : d.faults = [])
    (hdrop : Target.dropFiles (names.map fun name => dir.join ⟨name⟩) d = (.error fault, e)) :
    ∃ done name, done ++ [name] <+: names ∧ Cleared (done.map (· :: place)) d e ∧
      (∀ other ∈ done, refusal? d dir place other = none) ∧ refusal? d dir place name ≠ none := by
  induction names generalizing d with
  | nil => cases hdrop
  | cons name rest ih =>
    have hname := hnames name List.mem_cons_self
    have hrest := fun n hn => hnames n (List.mem_cons_of_mem name hn)
    have hnone : d.faults.head?.join = none := by rw [hd]; rfl
    rw [List.map_cons] at hdrop
    cases hrefusal : refusal? d dir place name with
    | some why =>
      have hremove := removeFile_of_refusal h hname hnone hrefusal
      rw [dropFiles_of_refused _ hremove (refusal?_ne_missing hrefusal)] at hdrop
      cases hdrop
      refine ⟨[], name, List.prefix_append [name] rest, Cleared.nil_spent d, nofun, ?_⟩
      rw [hrefusal]
      exact Option.some_ne_none why
    | none =>
      obtain ⟨d', hd', hremove⟩ := removeFile_of_not_refused h hname hnone hrefusal
      rw [dropFiles_of_removed _ hremove] at hdrop
      obtain ⟨done, last, hprefix, hcleared, hfree, hlast⟩ :=
        ih (h.congr hd'.directories) hrest (hd'.faults_nil hd) hdrop
      refine ⟨name :: done, last, (List.prefix_cons_inj name).2 hprefix, hd'.cons hcleared, ?_, ?_⟩
      · intro other hother
        rcases List.mem_cons.1 hother with rfl | hother
        · exact hrefusal
        · rw [refusal?_congr hd'.directories]
          exact hfree other hother
      · rwa [refusal?_congr hd'.directories]

/-- Whether files can be dropped, and why not if they cannot, depends on the directories alone. -/
theorem dropFiles_congr {d' : Disk} {names : List Name} (h : d.Enters dir place)
    (hnames : ∀ name ∈ names, Path.EntryName name) (hdirs : Disk.SameDirectories d d')
    (hd : d.faults = []) (hd' : d'.faults = []) :
    (Target.dropFiles (names.map fun name => dir.join ⟨name⟩) d).1 =
      (Target.dropFiles (names.map fun name => dir.join ⟨name⟩) d').1 := by
  induction names generalizing d d' with
  | nil => rfl
  | cons name rest ih =>
    have hname := hnames name List.mem_cons_self
    have hrest := fun n hn => hnames n (List.mem_cons_of_mem name hn)
    have hnone : d.faults.head?.join = none := by rw [hd]; rfl
    have hnone' : d'.faults.head?.join = none := by rw [hd']; rfl
    rw [List.map_cons]
    cases hrefusal : refusal? d dir place name with
    | some fault =>
      have hremove := removeFile_of_refusal h hname hnone hrefusal
      have hremove' := removeFile_of_refusal (h.congr hdirs) hname hnone'
        ((refusal?_congr hdirs dir place name).symm.trans hrefusal)
      rw [dropFiles_of_refused _ hremove (refusal?_ne_missing hrefusal),
        dropFiles_of_refused _ hremove' (refusal?_ne_missing hrefusal)]
    | none =>
      obtain ⟨e, he, hremove⟩ := removeFile_of_not_refused h hname hnone hrefusal
      obtain ⟨e', he', hremove'⟩ := removeFile_of_not_refused (h.congr hdirs) hname hnone'
        ((refusal?_congr hdirs dir place name).symm.trans hrefusal)
      rw [dropFiles_of_removed _ hremove, dropFiles_of_removed _ hremove']
      exact ih (h.congr he.directories) hrest
        ((he.directories.symm.trans hdirs).trans he'.directories) (he.faults_nil hd)
        (he'.faults_nil hd')

end Drop

end SqlReplay.Replay
