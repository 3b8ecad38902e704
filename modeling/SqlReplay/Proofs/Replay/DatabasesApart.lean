import Mathlib.Data.List.Basic
import SqlReplay.Proofs.Replay.DatabaseFiles
import SqlReplay.Proofs.Storage.Beside
import SqlReplay.Proofs.Text.Utf8

/-!
# The files of different databases

The name of a database holds no dot, so what stands before the first dot of a file's name tells
which database the file belongs to (`takeWhile_of_mem`). Hence the files of two databases with
proper names have no path in common, and all of them lie directly in the data directory
(`keepsApart`).  They do not even lead to one place (`seat?_databaseFiles_ne`).
-/

namespace SqlReplay.Replay

open Storage

/-- What stands before the first dot of a file's name is the name of the database. -/
theorem takeWhile_of_mem {database : String} (h : checkDatabaseName database = .ok ())
    {name : Name} (hname : name ∈ fileNames database) :
    name.takeWhile (· ≠ Path.dot) = Utf8.ofString database := by
  obtain ⟨suffix, -, rfl⟩ := mem_fileNames hname
  have hdot : ∀ b ∈ Utf8.ofString database, decide (b ≠ Path.dot) = true := by
    intro b hb
    have hbound := bytes_bounds h b hb
    rw [decide_eq_true_eq]
    rintro rfl
    exact absurd hbound (by decide)
  have hending : Utf8.ofString ".sqlite3" = Path.dot :: Utf8.ofString "sqlite3" := by decide
  rw [List.append_assoc, List.takeWhile_append_of_pos hdot, hending, List.cons_append,
    List.takeWhile_cons_of_neg (by simp), List.append_nil]

theorem fileNames_disjoint {n m : String} (hn : checkDatabaseName n = .ok ())
    (hm : checkDatabaseName m = .ok ()) (hne : n ≠ m) {name : Name} (h : name ∈ fileNames n) :
    name ∉ fileNames m := fun h' =>
  hne (Utf8.ofString_injective ((takeWhile_of_mem hn h).symm.trans (takeWhile_of_mem hm h')))

theorem join_injective {dir : Path} {a b : Name} (ha : Path.EntryName a) (hb : Path.EntryName b)
    (h : dir.join ⟨a⟩ = dir.join ⟨b⟩) : a = b := by
  have hlast := congrArg (fun p => p.components.getLast?) h
  simp only [ha.components_join, hb.components_join, List.getLast?_concat, Option.some.injEq]
    at hlast
  exact hlast

/-- The files of a database lie directly in the data directory. -/
theorem directly_of_mem (dataDir : Path) {database : String}
    (h : checkDatabaseName database = .ok ()) {p : Path} (hp : p ∈ databaseFiles dataDir database) :
    ∃ name ∈ fileNames database, Path.EntryName name ∧ p = dataDir.join ⟨name⟩ := by
  rw [databaseFiles_eq dataDir h] at hp
  obtain ⟨name, hname, rfl⟩ := List.mem_map.1 hp
  exact ⟨name, hname, entryName_of_mem h hname, rfl⟩

/-- Different databases have no file in common. -/
theorem databaseFiles_disjoint (dataDir : Path) {n m : String} (hn : checkDatabaseName n = .ok ())
    (hm : checkDatabaseName m = .ok ()) (hne : n ≠ m) {p : Path}
    (hp : p ∈ databaseFiles dataDir n) : p ∉ databaseFiles dataDir m := by
  intro hp'
  obtain ⟨name, hname, hentry, rfl⟩ := directly_of_mem dataDir hn hp
  obtain ⟨other, hother, hentry', hjoin⟩ := directly_of_mem dataDir hm hp'
  obtain rfl := join_injective hentry hentry' hjoin
  exact fileNames_disjoint hn hm hne hname hother

/-- A file in a directory has the place there that its name says. -/
theorem name_of_seat?_join {d : Disk} {dir : Path} {name : Name} (hname : Path.EntryName name)
    {place : Location} (h : d.seat? (dir.join ⟨name⟩) = some place) :
    ∃ above, place = name :: above := by
  obtain ⟨-, last, above, rfl, hlast⟩ := Disk.name_of_seat? h
  rw [hname.components_join, List.getLast?_concat] at hlast
  cases hlast
  exact ⟨above, rfl⟩

/-- The files of one database are nowhere that a file of another leads. -/
theorem seat?_databaseFiles_ne {d : Disk} {dataDir : Path} {n m : String}
    (hn : checkDatabaseName n = .ok ()) (hm : checkDatabaseName m = .ok ()) (hne : m ≠ n)
    {p q : Path} (hp : p ∈ databaseFiles dataDir n) (hq : q ∈ databaseFiles dataDir m)
    {place : Location} (h : d.seat? q = some place) : d.seat? p ≠ some place := by
  intro hseat
  obtain ⟨name, hname, hentry, rfl⟩ := directly_of_mem dataDir hn hp
  obtain ⟨other, hother, hentry', rfl⟩ := directly_of_mem dataDir hm hq
  obtain ⟨above, rfl⟩ := name_of_seat?_join hentry' h
  obtain ⟨above', heq⟩ := name_of_seat?_join hentry hseat
  cases heq
  exact fileNames_disjoint hm hn hne hother hname

/-- Whether the files of each database lie directly in a directory, apart from those of others. -/
structure KeepsApart (dataDir : Path) : Prop where
  directly : ∀ {n}, checkDatabaseName n = .ok () → ∀ p ∈ databaseFiles dataDir n,
    ∃ entry, Path.EntryName entry ∧ p = dataDir.join ⟨entry⟩
  disjoint : ∀ {n m}, checkDatabaseName n = .ok () → checkDatabaseName m = .ok () → n ≠ m →
    (databaseFiles dataDir n).Disjoint (databaseFiles dataDir m)

theorem keepsApart (dataDir : Path) : KeepsApart dataDir where
  directly hn p hp := by
    obtain ⟨entry, -, hentry, rfl⟩ := directly_of_mem dataDir hn hp
    exact ⟨entry, hentry, rfl⟩
  disjoint hn hm hne _ hp hp' := databaseFiles_disjoint dataDir hn hm hne hp hp'

end SqlReplay.Replay
