import Mathlib.Data.List.Forall2
import SqlReplay.Proofs.Replay.StartOver
import SqlReplay.Proofs.Storage.Sparing

/-!
# What sessions hold on to

What a database engine promises of the files of its sessions (`HoldingLaws`): a session keeps to the
files of its databases, which are the one it was opened on and those it has attached since, a new
database is empty, and what is committed to a database is told by its own four files and survives
the end of a session.  A session may well write to its files when it is closed, such as to move what
was committed from a log into the database; so the laws say of a close only which files it touches
and what is committed after it.

They are promises on a session whose files are where it has opened them (`Holdings.Intact`).  Of one
whose files were moved, replaced or removed meanwhile, no engine promises anything.

A database that is opened where none of its files is starts empty, in a transaction
(`HoldingLaws.empty_of_openDatabase`).
-/

namespace SqlReplay.Replay

open Storage

/-- What can be told of the databases of sessions and of the files these are in. -/
structure Holdings (σ : Type) where
  /-- What a database holds. -/
  Content : Type
  /-- What is committed to the database at a path. -/
  content : Path → Disk → Content
  /-- What a session sees of the database it was opened on, its own changes included. -/
  seen : σ → Disk → Content
  /-- What a database holds that has no tables. -/
  empty : Content
  /-- The path of the database that a session was opened on. -/
  own : σ → Path
  /-- The paths of the databases that a session has attached. -/
  attached : σ → List Path
  /-- Whether the files of a session are still where it has opened them. -/
  Intact : σ → Disk → Prop

namespace Holdings

variable {σ : Type} (H : Holdings σ)

/-- The databases of a session. -/
def databases (s : σ) : List Path := H.own s :: H.attached s

/-- The files that the databases of a session may be in. -/
def files (s : σ) : List Path := (H.databases s).flatMap filesOf

/-- Whether a session goes on with the databases it has, touching nothing but their files, and with
all that is in the first one if nothing fails. -/
structure Goes (s : σ) (d : Disk) (got : Except EngineFault Unit × σ × Disk) : Prop where
  intact : H.Intact got.2.1 got.2.2
  databases : H.databases got.2.1 = H.databases s
  touches : Disk.Touches (H.files s) (H.files s) d got.2.2
  kept : got.1 = .ok () → H.seen got.2.1 got.2.2 = H.seen s d ∧
    H.content (H.own s) got.2.2 = H.content (H.own s) d

variable {H} {s : σ} {d : Disk} {p : Path}

theorem files_congr {s' : σ} (h : H.databases s' = H.databases s) : H.files s' = H.files s := by
  rw [files, files, h]

theorem own_congr {s' : σ} (h : H.databases s' = H.databases s) : H.own s' = H.own s :=
  (List.cons.inj h).1

theorem files_of_databases (h : H.databases s = [p]) : H.files s = filesOf p := by
  rw [files, h, List.flatMap_singleton]

theorem Goes.trans {s' : σ} {d' : Disk} {got : Except EngineFault Unit × σ × Disk}
    (h : H.Goes s d (.ok (), s', d')) (h' : H.Goes s' d' got) : H.Goes s d got where
  intact := h'.intact
  databases := h'.databases.trans h.databases
  touches := by
    have htouches := h'.touches
    rw [files_congr h.databases] at htouches
    exact h.touches.trans htouches
  kept hok := by
    obtain ⟨hseen, hcontent⟩ := h.kept rfl
    obtain ⟨hseen', hcontent'⟩ := h'.kept hok
    rw [own_congr h.databases] at hcontent'
    exact ⟨hseen'.trans hseen, hcontent'.trans hcontent⟩

end Holdings

/-- Whether two paths lead to one place, as paths of files. -/
def SamePlace (d : Disk) (p q : Path) : Prop :=
  p.hasTrailingSlash = false ∧ q.hasTrailingSlash = false ∧
    ∃ place, d.seat? p = some place ∧ d.seat? q = some place

/-- Whether two databases are one, under one path or in files at the same places. -/
def SameDatabase (d : Disk) (p q : Path) : Prop :=
  p = q ∨ List.Forall₂ (SamePlace d) (filesOf p) (filesOf q)

theorem SameDatabase.congr {d e : Disk} {p q : Path} (hdirs : Disk.SameDirectories d e)
    (h : SameDatabase d p q) : SameDatabase e p q := by
  refine h.imp_right fun hfiles => hfiles.imp ?_
  rintro a b ⟨ha, hb, place, hseat, hseat'⟩
  rw [Disk.seat?_congr hdirs] at hseat hseat'
  exact ⟨ha, hb, place, hseat, hseat'⟩

/-- The promises of an engine on files. -/
structure HoldingLaws {σ : Type} [Engine σ] (H : Holdings σ) : Prop where
  /-- A session begins with the database it is opened on. -/
  opening : ∀ {p d s e}, Engine.opening p d = (.ok s, e) → H.databases s = [p] ∧ H.Intact s e
  /-- Where no file of it is, that database is empty. -/
  opening_empty : ∀ {p d s e}, d.Numbered → (∀ q ∈ filesOf p, d.Lacks q) →
    Engine.opening p d = (.ok s, e) → H.seen s e = H.empty ∧ H.content p e = H.empty
  /-- What is opened anew are the files of the database at most, opened or not. -/
  opening_touches : ∀ {p d}, (∀ q ∈ filesOf p, d.Lacks q) →
    Disk.Touches (filesOf p) (filesOf p) d (Engine.opening (σ := σ) p d).2
  wait : ∀ ms {s d}, H.Intact s d → H.Goes s d (Engine.wait ms s d)
  begin : ∀ {s d}, H.Intact s d → H.Goes s d (Engine.perform "BEGIN" s d)
  /-- What begins is a transaction. -/
  begun : ∀ {s : σ} {d s' d'}, Engine.perform "BEGIN" s d = (.ok (), s', d') →
    Engine.autocommits s' = false
  /-- Nothing takes a session to another database than the one it was opened on. -/
  own_perform : ∀ text s d, H.own (Engine.perform text s d).2.1 = H.own s
  own_next : ∀ (batch : Engine.Batch σ) s d, H.own (Engine.next batch s d).2.1 = H.own s
  own_run : ∀ (statement : Engine.Prepared σ) s d, H.own (Engine.run statement s d).2.1 = H.own s
  /-- A close touches only the files of the session. -/
  close_touches : ∀ {s d}, H.Intact s d →
    Disk.Touches (H.files s) (H.files s) d (Engine.close s d).2
  /-- A close commits nothing and loses nothing that was committed. -/
  close_content : ∀ {s d p q}, H.Intact s d → d.Numbered → q ∈ H.databases s → SameDatabase d p q →
    H.content p (Engine.close s d).2 = H.content p d
  /-- What is committed to a database is told by its files. -/
  content : ∀ {p d e}, Disk.SameDirectories d e →
    (∀ q ∈ filesOf p, ∀ c, e.read q = .ok c ↔ d.read q = .ok c) → H.content p e = H.content p d

namespace HoldingLaws

variable {σ : Type} [Engine σ] {H : Holdings σ} (laws : HoldingLaws H)
include laws

/-- To set how long others are waited for and to begin leaves a session where it is. -/
theorem enter {s : σ} {d : Disk} (hintact : H.Intact s d) (busyTimeoutMs : UInt64) :
    H.Goes s d (Target.enter busyTimeoutMs s d) := by
  have hwait := laws.wait busyTimeoutMs hintact
  unfold Target.enter
  rcases hgot : Engine.wait busyTimeoutMs s d with ⟨fault | _, s', d'⟩
  · rwa [hgot] at hwait
  · rw [hgot] at hwait
    exact hwait.trans (laws.begin hwait.intact)

theorem begun_of_enter {s s' : σ} {d d' : Disk} {busyTimeoutMs : UInt64}
    (h : Target.enter busyTimeoutMs s d = (.ok (), s', d')) : Engine.autocommits s' = false := by
  unfold Target.enter at h
  rcases hwait : Engine.wait busyTimeoutMs s d with ⟨_ | _, s₁, d₁⟩
  · rw [hwait] at h
    cases h
  · rw [hwait] at h
    exact laws.begun h

/-- Whatever comes of it, a database that is opened where none of its files is touches no other
file. -/
theorem touches_openDatabase {p : Path} {d : Disk} (hlacks : ∀ q ∈ filesOf p, d.Lacks q)
    (busyTimeoutMs : UInt64) :
    Disk.Touches (filesOf p) [] d (Target.openDatabase (σ := σ) busyTimeoutMs p d).2 := by
  have htouches := laws.opening_touches hlacks
  refine Disk.Touches.of_lacks ?_ hlacks
  unfold Target.openDatabase
  rcases hopen : Engine.opening (σ := σ) p d with ⟨fault | s, e⟩
  · rwa [hopen] at htouches
  · obtain ⟨hdatabases, hintact⟩ := laws.opening hopen
    have henter := laws.enter hintact busyTimeoutMs
    have hfiles := Holdings.files_of_databases hdatabases
    rw [hopen] at htouches
    dsimp only
    rcases hgot : Target.enter busyTimeoutMs s e with ⟨fault | _, s', e'⟩
    · rw [hgot] at henter
      have hclose := laws.close_touches henter.intact
      rw [Holdings.files_congr henter.databases, hfiles] at hclose
      exact (htouches.trans (hfiles ▸ henter.touches)).trans hclose
    · rw [hgot] at henter
      exact htouches.trans (hfiles ▸ henter.touches)

/-- A database that could be opened is in a transaction, on the file it was opened on. -/
theorem opened_of_openDatabase {p : Path} {d e : Disk} {s : σ} {busyTimeoutMs : UInt64}
    (h : Target.openDatabase busyTimeoutMs p d = (.ok s, e)) :
    H.databases s = [p] ∧ H.Intact s e ∧ Engine.autocommits s = false := by
  unfold Target.openDatabase at h
  rcases hopen : Engine.opening (σ := σ) p d with ⟨_ | s₁, d₁⟩
  · rw [hopen] at h
    cases h
  · obtain ⟨hdatabases, hintact⟩ := laws.opening hopen
    have henter := laws.enter hintact busyTimeoutMs
    rw [hopen] at h
    dsimp only at h
    rcases hgot : Target.enter busyTimeoutMs s₁ d₁ with ⟨_ | _, s₂, d₂⟩
    · rw [hgot] at h
      cases h
    · rw [hgot] at h henter
      cases h
      exact ⟨henter.databases.trans hdatabases, henter.intact, laws.begun_of_enter hgot⟩

/-- If none of its files was there, a database that could be opened is empty. -/
theorem empty_of_openDatabase {p : Path} {d e : Disk} {s : σ} {busyTimeoutMs : UInt64}
    (hd : d.Numbered) (hlacks : ∀ q ∈ filesOf p, d.Lacks q)
    (h : Target.openDatabase busyTimeoutMs p d = (.ok s, e)) :
    H.seen s e = H.empty ∧ H.content p e = H.empty := by
  obtain ⟨s₁, s₂, d₁, d₂, hopen, hwait, hbegin⟩ := openDatabase_eq_ok h
  obtain ⟨hseen, hcontent⟩ := laws.opening_empty hd hlacks hopen
  obtain ⟨hdatabases, hintact⟩ := laws.opening hopen
  have hgoes := laws.enter hintact busyTimeoutMs
  have hown : H.own s₁ = p := (List.cons.inj hdatabases).1
  rw [Target.enter, hwait] at hgoes
  dsimp only at hgoes
  rw [hbegin] at hgoes
  obtain ⟨hseen', hcontent'⟩ := hgoes.kept rfl
  rw [hown] at hcontent'
  exact ⟨hseen'.trans hseen, hcontent'.trans hcontent⟩

/-- What is committed to a database stays if names come and go elsewhere only, and nothing is
written to its files. -/
theorem content_of_touches {named written : List Path} {d e : Disk} {p : Path}
    (h : Disk.Touches named written d e) (hd : d.Numbered)
    (hnamed : ∀ q ∈ filesOf p, ∀ place, d.seat? q = some place →
      ∀ a ∈ named, d.seat? a ≠ some place)
    (hwritten : ∀ q ∈ filesOf p, ∀ place id, d.locate q = .ok (.file place id) → ∀ a ∈ written,
      ∀ other, d.locate a ≠ .ok (.file other id)) : H.content p e = H.content p d :=
  laws.content h.directories fun q hq _ => h.read_iff hd (hnamed q hq) (hwritten q hq)

end HoldingLaws

end SqlReplay.Replay
