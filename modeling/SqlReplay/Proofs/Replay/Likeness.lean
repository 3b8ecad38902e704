import SqlReplay.Proofs.Replay.FaultIsolation
import SqlReplay.Proofs.Replay.StartOver

/-!
# Sessions that are alike

What a database engine promises of two sessions, each on a disk of its own, that were opened where
no file of their database was left on disks that are otherwise the same (`LikenessLaws`): whether
they can be opened, what comes of the words that a target says to them, and what they leave depends
on nothing else.  These are the promises of every engine that keeps all it knows of a database in
the database's own files.  For lines of which the same holds (`Likeness.Determined`), targets on
such sessions answer alike (`LikenessLaws.simulation`), and for lines that reach no other files
(`Likeness.OwnOnly`), a target touches nothing but the files of its database
(`LikenessLaws.simulation_self`).
-/

namespace SqlReplay.Replay

open Storage

/-! ## Promises -/

/-- Whether a disk came from another by changing no more than the files at some paths. -/
structure ConfinedTo (paths : List Path) (d e : Disk) : Prop where
  numbered : d.Numbered → e.Numbered
  faults : e.faults <:+ d.faults
  apart : d.SameApart paths e

theorem ConfinedTo.trans {paths : List Path} {d e f : Disk} (h : ConfinedTo paths d e)
    (h' : ConfinedTo paths e f) : ConfinedTo paths d f :=
  ⟨h'.numbered ∘ h.numbered, h'.faults.trans h.faults, h.apart.trans h'.apart⟩

theorem ConfinedTo.faults_nil {paths : List Path} {d e : Disk} (h : ConfinedTo paths d e)
    (hd : d.faults = []) : e.faults = [] :=
  List.suffix_nil.1 (hd ▸ h.faults)

/-- What can be told of sessions of an engine that run side by side. -/
structure Likeness (σ : Type) where
  /-- What a database holds. -/
  Content : Type
  /-- What is committed to the database at a path. -/
  content : Path → Disk → Content
  /-- Whether two sessions, each on the database at the path on its own disk, cannot be told
  apart. -/
  Alike : Path → σ → Disk → σ → Disk → Prop
  /-- Whether a session has opened no file but those of the database at the path. -/
  Own : Path → σ → Disk → Prop

variable {σ : Type} [Engine σ] {ε α : Type}

namespace Likeness

variable (L : Likeness σ)

/-- Whether an action comes out the same in sessions that are alike, and leaves them alike. -/
def Respects (act : σ → Disk → Except ε α × σ × Disk) : Prop :=
  ∀ {p s d s' d'}, L.Alike p s d s' d' →
    (act s d).1 = (act s' d').1 ∧
      L.Alike p (act s d).2.1 (act s d).2.2 (act s' d').2.1 (act s' d').2.2

/-- Whether an action in a session on the files of its database alone changes only these. -/
def Confines (act : σ → Disk → Except ε α × σ × Disk) : Prop :=
  ∀ {p s d}, L.Own p s d →
    ConfinedTo (filesOf p) d (act s d).2.2 ∧ L.Own p (act s d).2.1 (act s d).2.2

/-- Whether what a line does depends on what the session and the files hold, and not on chance or
the time. -/
def Determined (line : String) : Prop := L.Respects (Target.runLine line)

/-- Whether a line reaches no files but those of the session's own database. -/
def OwnOnly (line : String) : Prop := L.Confines (Target.runLine line)

end Likeness

/-- The promises of an engine on sessions that are opened where no file of their database is. -/
structure LikenessLaws (L : Likeness σ) : Prop where
  /-- A new database can be opened or not whatever its files once held, and is then the same. -/
  opening : ∀ {p d e}, d.Numbered → e.Numbered → d.faults = [] → e.faults = [] →
    AllVacant d p → AllVacant e p → d.SameApart (filesOf p) e →
      (∃ fault d' e', Engine.opening (σ := σ) p d = (.error fault, d') ∧
          Engine.opening (σ := σ) p e = (.error fault, e') ∧ L.content p d' = L.content p e') ∨
        ∃ (s s' : σ) (d' e' : Disk), Engine.opening p d = (.ok s, d') ∧
          Engine.opening p e = (.ok s', e') ∧ L.Alike p s d' s' e'
  opening_own : ∀ {p d}, d.Numbered → d.faults = [] → AllVacant d p →
    ConfinedTo (filesOf p) d (Engine.opening (σ := σ) p d).2 ∧
      ∀ s d', Engine.opening p d = (.ok s, d') → L.Own p s d'
  /-- The words that a target says to its session are determined, and touch its own files only. -/
  wait : ∀ ms, L.Respects (Engine.wait ms) ∧ L.Confines (Engine.wait ms)
  begin : L.Respects (Engine.perform "BEGIN") ∧ L.Confines (Engine.perform "BEGIN")
  commit : L.Respects (Engine.perform "COMMIT") ∧ L.Confines (Engine.perform "COMMIT")
  autocommits : ∀ {p s d s' d'}, L.Alike p s d s' d' →
    Engine.autocommits s = Engine.autocommits s'
  /-- Sessions that are alike leave the same database. -/
  close : ∀ {p s d s' d'}, L.Alike p s d s' d' →
    (Engine.close s d).1 = (Engine.close s' d').1 ∧
      L.content p (Engine.close s d).2 = L.content p (Engine.close s' d').2
  close_own : ∀ {p s d}, L.Own p s d → ConfinedTo (filesOf p) d (Engine.close s d).2
  /-- There is nothing in a database that has no file. -/
  nowhere : ∀ {p d e}, (∀ place id, d.locate p ≠ .ok (.file place id)) →
    (∀ place id, e.locate p ≠ .ok (.file place id)) → L.content p d = L.content p e

/-! ## Opening a database -/

section Opening

variable {L : Likeness σ} {p : Path} {d e : Disk}

theorem respects_enter (laws : LikenessLaws L) (ms : UInt64) : L.Respects (Target.enter ms) := by
  intro p s d s' d' h
  obtain ⟨hanswer, halike⟩ := (laws.wait ms).1 h
  unfold Target.enter
  generalize Engine.wait ms s d = left at hanswer halike ⊢
  generalize Engine.wait ms s' d' = right at hanswer halike ⊢
  obtain ⟨answer, s₁, d₁⟩ := left
  obtain ⟨answer', s₁', d₁'⟩ := right
  obtain rfl : answer = answer' := hanswer
  cases answer with
  | error fault => exact ⟨rfl, halike⟩
  | ok _ => exact laws.begin.1 halike

theorem confines_enter (laws : LikenessLaws L) (ms : UInt64) : L.Confines (Target.enter ms) := by
  intro p s d h
  obtain ⟨hconfined, hown⟩ := (laws.wait ms).2 h
  unfold Target.enter
  generalize Engine.wait ms s d = got at hconfined hown ⊢
  obtain ⟨fault | _, s₁, d₁⟩ := got
  · exact ⟨hconfined, hown⟩
  · obtain ⟨hconfined', hown'⟩ := laws.begin.2 hown
    exact ⟨hconfined.trans hconfined', hown'⟩

/-- Databases whose files were dropped from disks that are otherwise the same are opened alike. -/
theorem openDatabase_alike (laws : LikenessLaws L) (ms : UInt64) (hd : d.Numbered)
    (he : e.Numbered) (hdfaults : d.faults = []) (hefaults : e.faults = [])
    (hdvacant : AllVacant d p) (hevacant : AllVacant e p) (hapart : d.SameApart (filesOf p) e) :
    (∃ fault d' e', Target.openDatabase (σ := σ) ms p d = (.error fault, d') ∧
        Target.openDatabase (σ := σ) ms p e = (.error fault, e') ∧
        L.content p d' = L.content p e') ∨
      ∃ (s s' : σ) (d' e' : Disk), Target.openDatabase ms p d = (.ok s, d') ∧
        Target.openDatabase ms p e = (.ok s', e') ∧ L.Alike p s d' s' e' := by
  unfold Target.openDatabase
  rcases laws.opening hd he hdfaults hefaults hdvacant hevacant hapart with
    ⟨fault, d', e', hopen, hopen', hcontent⟩ | ⟨s, s', d', e', hopen, hopen', halike⟩
  · rw [hopen, hopen']
    exact .inl ⟨_, d', e', rfl, rfl, hcontent⟩
  · obtain ⟨hanswer, hentered⟩ := respects_enter laws ms halike
    simp only [hopen, hopen']
    generalize Target.enter ms s d' = left at hanswer hentered ⊢
    generalize Target.enter ms s' e' = right at hanswer hentered ⊢
    obtain ⟨answer, s₁, d₁⟩ := left
    obtain ⟨answer', s₁', e₁⟩ := right
    obtain rfl : answer = answer' := hanswer
    cases answer with
    | error fault => exact .inl ⟨_, _, _, rfl, rfl, (laws.close hentered).2⟩
    | ok _ => exact .inr ⟨s₁, s₁', d₁, e₁, rfl, rfl, hentered⟩

theorem openDatabase_confined (laws : LikenessLaws L) (ms : UInt64) (hd : d.Numbered)
    (hfaults : d.faults = []) (hvacant : AllVacant d p) :
    ConfinedTo (filesOf p) d (Target.openDatabase (σ := σ) ms p d).2 ∧
      ∀ s d', Target.openDatabase ms p d = (.ok s, d') → L.Own p s d' := by
  obtain ⟨hconfined, hown⟩ := laws.opening_own hd hfaults hvacant
  unfold Target.openDatabase
  generalize Engine.opening (σ := σ) p d = got at hconfined hown ⊢
  obtain ⟨fault | s, d₁⟩ := got
  · exact ⟨hconfined, nofun⟩
  obtain ⟨hconfined', hown'⟩ := confines_enter laws ms (hown s d₁ rfl)
  dsimp only
  generalize Target.enter ms s d₁ = got at hconfined' hown' ⊢
  obtain ⟨fault | _, s₂, d₂⟩ := got
  · exact ⟨(hconfined.trans hconfined').trans (laws.close_own hown'), nofun⟩
  · refine ⟨hconfined.trans hconfined', fun s' d' h => ?_⟩
    cases h
    exact hown'

end Opening

/-! ## Targets -/

/-- Whether two targets have sessions that are alike. -/
structure InStep (L : Likeness σ) (p : Path) (t u : Target σ) : Prop where
  isOpen : t.isOpen = true ∧ u.isOpen = true
  session : ∃ s s', t.handle? = some s ∧ u.handle? = some s' ∧ L.Alike p s t.disk s' u.disk

/-- Whether a target has a session on the files of its database alone, and has changed only
these. -/
structure ByItself (L : Likeness σ) (p : Path) (d : Disk) (t : Target σ) : Prop where
  isOpen : t.isOpen = true
  session : ∃ s, t.handle? = some s ∧ L.Own p s t.disk
  confined : ConfinedTo (filesOf p) d t.disk

section Targets

variable {L : Likeness σ} {p : Path} {d : Disk} {t u : Target σ}

namespace LikenessLaws

variable (laws : LikenessLaws L)
include laws

/-- Targets in step answer determined lines alike and stay in step. -/
theorem simulation (p : Path) : Simulation L.Determined (InStep L p) where
  execute {t u} h sql hline := by
    obtain ⟨⟨hopen, hopen'⟩, s, s', hs, hs', halike⟩ := h
    obtain ⟨hanswer, hnext⟩ := hline halike
    rw [execute_of_handle hopen hs, execute_of_handle hopen' hs']
    exact ⟨hanswer, ⟨hopen, hopen'⟩, _, _, rfl, rfl, hnext⟩
  commit {t u} h := by
    obtain ⟨⟨hopen, hopen'⟩, s, s', hs, hs', halike⟩ := h
    obtain ⟨hanswer, hnext⟩ := laws.commit.1 halike
    rw [commit_of_handle hopen hs, commit_of_handle hopen' hs', laws.autocommits halike]
    split
    · exact ⟨rfl, ⟨hopen, hopen'⟩, s, s', hs, hs', halike⟩
    · exact ⟨congrArg (Except.mapError _) hanswer, ⟨hopen, hopen'⟩, _, _, rfl, rfl, hnext⟩

/-- A target that runs lines on the files of its database alone leaves the others. -/
theorem simulation_self (p : Path) (d : Disk) :
    Simulation L.OwnOnly fun t u : Target σ => t = u ∧ ByItself L p d t where
  execute := by
    rintro t _ ⟨rfl, hopen, ⟨s, hs, hown⟩, hconfined⟩ sql hline
    obtain ⟨hconfined', hown'⟩ := hline hown
    rw [execute_of_handle hopen hs]
    exact ⟨rfl, rfl, hopen, ⟨_, rfl, hown'⟩, hconfined.trans hconfined'⟩
  commit := by
    rintro t _ ⟨rfl, hopen, ⟨s, hs, hown⟩, hconfined⟩
    obtain ⟨hconfined', hown'⟩ := laws.commit.2 hown
    rw [commit_of_handle hopen hs]
    split
    · exact ⟨rfl, rfl, hopen, ⟨s, hs, hown⟩, hconfined⟩
    · exact ⟨rfl, rfl, hopen, ⟨_, rfl, hown'⟩, hconfined.trans hconfined'⟩

/-- Targets in step leave the same database. -/
theorem close_inStep (h : InStep L p t u) :
    t.close.1 = u.close.1 ∧ L.content p t.close.2.disk = L.content p u.close.2.disk := by
  obtain ⟨-, s, s', hs, hs', halike⟩ := h
  obtain ⟨hanswer, hcontent⟩ := laws.close halike
  rw [close_of_handle hs, close_of_handle hs']
  exact ⟨congrArg (Except.mapError _) hanswer, hcontent⟩

theorem close_byItself (h : ByItself L p d t) : ConfinedTo (filesOf p) d t.close.2.disk := by
  obtain ⟨-, ⟨s, hs, hown⟩, hconfined⟩ := h
  rw [close_of_handle hs]
  exact hconfined.trans (laws.close_own hown)

end LikenessLaws

end Targets

end SqlReplay.Replay
