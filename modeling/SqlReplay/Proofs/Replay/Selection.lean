import Mathlib.Data.List.Basic
import Mathlib.Data.List.Induction
import SqlReplay.Proofs.Replay.Recorded
import SqlReplay.Replay.FileTarget

/-!
# What a target has selected

Three fields of a target tell where it stands: whether it is open, the session it holds and the name
of the database it has selected.  Each action sets them on its own, and gives up halfway where the
engine or the disk fails; still a name is selected exactly while a session is held, and a session is
held only while the target is open (`Target.Sound`).  Whatever is asked of a target, and whatever
others do to its files meanwhile, the history alone tells which database is selected: that of the
latest reset that got past its checks, if it succeeded and the target was not closed after it
(`Target.session_follows_history`).  All of this holds of any engine.
-/

namespace SqlReplay.Replay.Target

open Storage

variable {σ : Type}

/-- Something that happens to a target: a call, or a change of its disk by others. -/
inductive Step
  | call (c : Call)
  | elsewhere (change : Disk → Disk)

/-- Whether a reset gets past its checks. -/
def Admits (t : Target σ) (name : String) : Prop :=
  checkDatabaseName name = .ok () ∧ t.isOpen = true

/-- Whether a step lets go of what is selected, be it to select anew. -/
def LetsGo (t : Target σ) : Step → Prop
  | .call .close => True
  | .call (.reset name) => t.Admits name
  | _ => False

/-- Whether a name is selected just while a session is held, by an open target. -/
structure Sound (t : Target σ) : Prop where
  selected : t.database?.isSome = true ↔ t.handle?.isSome = true
  opened : t.handle?.isSome = true → t.isOpen = true

theorem Sound.handle?_eq_none_iff {t : Target σ} (h : t.Sound) :
    t.handle? = none ↔ t.database? = none := by
  rw [← Option.not_isSome_iff_eq_none, ← Option.not_isSome_iff_eq_none, h.selected]

theorem not_admits_of_closed {t : Target σ} {name : String} (h : t.isOpen = false) :
    ¬ t.Admits name :=
  fun hadmits => Bool.false_ne_true (h.symm.trans hadmits.2)

theorem database?_of_connect {t : Target σ} {dataDir : Path} {busyTimeoutMs : UInt64}
    {disk : Disk} (connected : connect dataDir busyTimeoutMs disk = (.ok (), t)) :
    t.database? = none := by
  rw [connect] at connected
  rcases hmake : disk.makeDirectories dataDir with ⟨_ | ⟨⟩, d⟩ <;>
    rw [hmake] at connected <;> cases connected
  rfl

theorem sound_of_connect {t : Target σ} {dataDir : Path} {busyTimeoutMs : UInt64}
    {disk : Disk} (connected : connect dataDir busyTimeoutMs disk = (.ok (), t)) : t.Sound := by
  rw [connect] at connected
  rcases hmake : disk.makeDirectories dataDir with ⟨_ | ⟨⟩, d⟩ <;>
    rw [hmake] at connected <;> cases connected
  exact ⟨Iff.rfl, nofun⟩

variable [Engine σ]

/-- The target after a step. -/
def step (t : Target σ) : Step → Target σ
  | .call (.execute line) => (t.execute line).2
  | .call .commit => t.commit.2
  | .call .close => t.close.2
  | .call (.reset name) => (t.reset name).2
  | .elsewhere change => { t with disk := change t.disk }

/-- The target after steps, one after the other. -/
def through (t : Target σ) (steps : List Step) : Target σ := steps.foldl step t

theorem through_append (t : Target σ) (steps more : List Step) :
    t.through (steps ++ more) = (t.through steps).through more := List.foldl_append

theorem through_concat (t : Target σ) (steps : List Step) (s : Step) :
    t.through (steps ++ [s]) = (t.through steps).step s := through_append t steps [s]

variable {t : Target σ} {name : String}

/-! ## Letting go -/

theorem deselect_of_handle {s : σ} (h : t.handle? = some s) : t.deselect =
    ((Engine.close s t.disk).1.mapError fun fault => .connection "close" fault.text,
      { t with handle? := none, database? := none, disk := (Engine.close s t.disk).2 }) := by
  simp only [deselect, h]

theorem deselect_of_none (h : t.handle? = none) :
    t.deselect = (.ok (), { t with database? := none }) := by
  simp only [deselect, h]

/-- However letting go comes out, nothing is held or selected after it. -/
theorem deselect_eq (t : Target σ) : t.deselect.2 =
    { t with handle? := none, database? := none, disk := t.deselect.2.disk } := by
  cases h : t.handle? with
  | none =>
    rw [deselect_of_none h]
    cases t
    cases h
    rfl
  | some s => rw [deselect_of_handle h]

@[simp] theorem handle?_deselect (t : Target σ) : t.deselect.2.handle? = none := by
  rw [deselect_eq]

@[simp] theorem database?_deselect (t : Target σ) : t.deselect.2.database? = none := by
  rw [deselect_eq]

@[simp] theorem isOpen_deselect (t : Target σ) : t.deselect.2.isOpen = t.isOpen := by
  rw [deselect_eq]

@[simp] theorem dataDir_deselect (t : Target σ) : t.deselect.2.dataDir = t.dataDir := by
  rw [deselect_eq]

/-! ## Actions -/

/-- Running a line keeps a session if there is one, and nothing else changes but the disk. -/
theorem execute_cases (t : Target σ) (line : String) :
    (t.execute line).2 = t ∨ t.isOpen = true ∧ ∃ s, t.handle? = some s ∧
      t.execute line = ((runLine line s t.disk).1, { t with
        handle? := some (runLine line s t.disk).2.1, disk := (runLine line s t.disk).2.2 }) := by
  unfold execute
  cases hopen : t.isOpen with
  | false => exact .inl rfl
  | true =>
    cases hs : t.handle? with
    | none => exact .inl rfl
    | some s => exact .inr ⟨rfl, s, rfl, rfl⟩

theorem commit_cases (t : Target σ) :
    t.commit.2 = t ∨ t.isOpen = true ∧ ∃ s, t.handle? = some s ∧ Engine.autocommits s = false ∧
      t.commit = ((Engine.perform "COMMIT" s t.disk).1.mapError fun fault =>
          .connection "commit" fault.text, { t with
        handle? := some (Engine.perform "COMMIT" s t.disk).2.1
        disk := (Engine.perform "COMMIT" s t.disk).2.2 }) := by
  unfold commit
  cases hopen : t.isOpen with
  | false => exact .inl rfl
  | true =>
    cases hs : t.handle? with
    | none => exact .inl rfl
    | some s =>
      cases hauto : Engine.autocommits s with
      | false => exact .inr ⟨rfl, s, rfl, hauto, by simp [hauto]⟩
      | true => exact .inl (by simp [hauto])

/-- A reset that does not get past its checks changes nothing. -/
theorem reset_of_not_admits (h : ¬ t.Admits name) : (t.reset name).2 = t := by
  unfold reset
  cases hcheck : checkDatabaseName name with
  | error fault => rfl
  | ok _ =>
    cases hopen : t.isOpen with
    | false => rfl
    | true => exact absurd ⟨hcheck, hopen⟩ h

/-- What a reset that gets past its checks comes to. -/
theorem reset_of_admits (h : t.Admits name) : t.reset name =
    match t.deselect with
    | (.error fault, t) => (.error fault, t)
    | (.ok (), t) => renew name t := by
  rw [reset, h.1, h.2]
  rfl

/-- A target on which a database was renewed, but for its disk: it holds a session on that database,
or it is as before. -/
theorem renew_cases (t : Target σ) (name : String) :
    (∃ s, (renew name t).1 = .ok () ∧ (renew name t).2 = { t with
      handle? := some s, database? := some name, disk := (renew name t).2.disk }) ∨
    (∃ fault, (renew name t).1 = .error fault) ∧
      (renew name t).2 = { t with disk := (renew name t).2.disk } := by
  unfold renew
  rcases dropFiles (databaseFiles t.dataDir name) t.disk with ⟨fault | _, d⟩
  · exact .inr ⟨⟨fault, rfl⟩, rfl⟩
  · simp only [select]
    rcases openDatabase (σ := σ) t.busyTimeoutMs (databaseFile t.dataDir name) d with ⟨fault | s, e⟩
    · exact .inr ⟨⟨fault, rfl⟩, rfl⟩
    · exact .inl ⟨s, rfl, rfl⟩

/-- A reset that gets past its checks ends with a session on the database, if it succeeds, and else
with none. -/
theorem reset_cases (h : t.Admits name) :
    (∃ s, (t.reset name).1 = .ok () ∧ (t.reset name).2 = { t with
      handle? := some s, database? := some name, disk := (t.reset name).2.disk }) ∨
    (∃ fault, (t.reset name).1 = .error fault) ∧ (t.reset name).2 = { t with
      handle? := none, database? := none, disk := (t.reset name).2.disk } := by
  have hlet := t.deselect_eq
  rw [reset_of_admits h]
  generalize t.deselect = got at hlet
  obtain ⟨fault | _, u⟩ := got
  · exact .inr ⟨⟨fault, rfl⟩, hlet⟩
  · dsimp only at hlet ⊢
    rcases renew_cases u name with ⟨s, hok, hrenewed⟩ | ⟨hfault, hrenewed⟩
    · refine .inl ⟨s, hok, ?_⟩
      rw [hrenewed, hlet]
    · refine .inr ⟨hfault, ?_⟩
      rw [hrenewed, hlet]

/-! ## Steps -/

/-- Every step keeps the three fields in tune. -/
theorem Sound.step (h : t.Sound) (s : Step) : (t.step s).Sound := by
  match s with
  | .call (.execute line) =>
    rcases t.execute_cases line with hsame | ⟨hopen, s, hs, hran⟩
    · rwa [Target.step, hsame]
    · rw [Target.step, hran]
      exact ⟨h.selected.trans (by rw [hs]; exact Iff.rfl), fun _ => hopen⟩
  | .call .commit =>
    rcases t.commit_cases with hsame | ⟨hopen, s, hs, -, hran⟩
    · rwa [Target.step, hsame]
    · rw [Target.step, hran]
      exact ⟨h.selected.trans (by rw [hs]; exact Iff.rfl), fun _ => hopen⟩
  | .call .close =>
    rw [Target.step, close, deselect_eq]
    exact ⟨Iff.rfl, nofun⟩
  | .call (.reset name) =>
    by_cases hadmits : t.Admits name
    · rcases reset_cases hadmits with ⟨s, -, hreset⟩ | ⟨-, hreset⟩
      · rw [Target.step, hreset]
        exact ⟨Iff.rfl, fun _ => hadmits.2⟩
      · rw [Target.step, hreset]
        exact ⟨Iff.rfl, nofun⟩
    · rwa [Target.step, reset_of_not_admits hadmits]
  | .elsewhere _ => exact ⟨h.selected, h.opened⟩

theorem Sound.through (h : t.Sound) (steps : List Step) : (t.through steps).Sound := by
  induction steps generalizing t with
  | nil => exact h
  | cons s rest ih => exact ih (h.step s)

theorem database?_execute (t : Target σ) (line : String) :
    (t.execute line).2.database? = t.database? := by
  rcases t.execute_cases line with hsame | ⟨-, s, -, hran⟩
  · rw [hsame]
  · rw [hran]

theorem database?_commit (t : Target σ) : t.commit.2.database? = t.database? := by
  rcases t.commit_cases with hsame | ⟨-, s, -, -, hran⟩
  · rw [hsame]
  · rw [hran]

/-- A reset that gets past its checks is what decides on the selection. -/
theorem database?_reset (h : t.Admits name) (n : String) :
    (t.reset name).2.database? = some n ↔ n = name ∧ (t.reset name).1 = .ok () := by
  rcases reset_cases h with ⟨s, hok, hreset⟩ | ⟨⟨fault, hfault⟩, hreset⟩
  · rw [hreset, hok]
    simp [eq_comm]
  · rw [hreset, hfault]
    simp

/-- A step that does not let go of the selection leaves it as it is. -/
theorem database?_step_of_not_letsGo {s : Step} (h : ¬ t.LetsGo s) :
    (t.step s).database? = t.database? := by
  match s with
  | .call (.execute line) => exact database?_execute t line
  | .call .commit => exact database?_commit t
  | .call .close => exact absurd trivial h
  | .call (.reset name) => exact congrArg database? (reset_of_not_admits h)
  | .elsewhere _ => rfl

theorem database?_step (t : Target σ) (s : Step) (name : String) :
    (t.step s).database? = some name ↔
      (s = .call (.reset name) ∧ t.Admits name ∧ (t.reset name).1 = .ok ()) ∨
        (¬ t.LetsGo s ∧ t.database? = some name) := by
  by_cases hgo : t.LetsGo s
  · match s with
    | .call .close => simp [step, close, hgo]
    | .call (.reset m) =>
      have hadmits : t.Admits m := hgo
      rw [show t.step (.call (.reset m)) = (t.reset m).2 from rfl, database?_reset hadmits]
      constructor
      · rintro ⟨rfl, hok⟩
        exact .inl ⟨rfl, hadmits, hok⟩
      · rintro (⟨heq, -, hok⟩ | ⟨hkept, -⟩)
        · cases heq
          exact ⟨rfl, hok⟩
        · exact absurd hgo hkept
  · rw [database?_step_of_not_letsGo hgo]
    constructor
    · exact fun h => .inr ⟨hgo, h⟩
    · rintro (⟨rfl, hadmits, -⟩ | ⟨-, h⟩)
      · exact absurd hadmits hgo
      · exact h

/-! ## Targets with nothing selected -/

theorem execute_of_closed (h : t.isOpen = false) (line : String) :
    t.execute line = (.error (.fatal "connection is closed"), t) := by
  rw [execute, h]
  rfl

theorem commit_of_closed (h : t.isOpen = false) :
    t.commit = (.error (.connection "commit" "connection is closed"), t) := by
  rw [commit, h]
  rfl

theorem reset_of_closed (h : t.isOpen = false) (valid : checkDatabaseName name = .ok ()) :
    t.reset name = (.error (.connection "reset_database" "connection is closed"), t) := by
  rw [reset, valid, h]
  rfl

/-- Closing a target that is closed, with nothing selected, does nothing. -/
theorem close_of_closed (h : t.isOpen = false) (hsound : t.Sound) : t.close = (.ok (), t) := by
  have hnone : t.handle? = none := by
    by_contra hsome
    have hopen := hsound.opened (Option.isSome_iff_ne_none.2 hsome)
    rw [h] at hopen
    cases hopen
  have hdatabase := hsound.handle?_eq_none_iff.1 hnone
  obtain ⟨dataDir, busyTimeoutMs, isOpen, handle?, database?, disk⟩ := t
  cases h
  cases hnone
  cases hdatabase
  rfl

theorem execute_of_none (hopen : t.isOpen = true) (h : t.handle? = none) (line : String) :
    t.execute line = (.error (.rejected "no database selected"), t) := by
  rw [execute, hopen, h]
  rfl

theorem commit_of_none (hopen : t.isOpen = true) (h : t.handle? = none) :
    t.commit = (.ok (), t) := by
  rw [commit, hopen, h]
  rfl

/-- A closed target stays closed, and only others change its disk. -/
theorem isOpen_step_of_closed (h : t.isOpen = false) (s : Step) : (t.step s).isOpen = false := by
  match s with
  | .call (.execute line) => rwa [step, execute_of_closed h]
  | .call .commit => rwa [step, commit_of_closed h]
  | .call .close => rw [step, close, isOpen_deselect]
  | .call (.reset name) => rwa [step, reset_of_not_admits (not_admits_of_closed h)]
  | .elsewhere _ => exact h

theorem isOpen_through_of_closed (h : t.isOpen = false) (steps : List Step) :
    (t.through steps).isOpen = false := by
  induction steps generalizing t with
  | nil => exact h
  | cons s rest ih => exact ih (isOpen_step_of_closed h s)

theorem isOpen_through_of_close {steps : List Step} (h : .call .close ∈ steps) :
    (t.through steps).isOpen = false := by
  obtain ⟨before, later, rfl⟩ := List.append_of_mem h
  rw [through_append]
  exact isOpen_through_of_closed (by rw [step, close, isOpen_deselect]) later

/-! ## Histories -/

/-- Whether the latest reset among the steps that gets past its checks is for the database and
succeeds, and nothing lets go of it after that. -/
def Selects (t : Target σ) (steps : List Step) (name : String) : Prop :=
  ∃ before later, steps = before ++ .call (.reset name) :: later ∧
    (t.through before).Admits name ∧ ((t.through before).reset name).1 = .ok () ∧
    ∀ mid s rest, later = mid ++ s :: rest →
      ¬ (t.through (before ++ .call (.reset name) :: mid)).LetsGo s

theorem not_selects_nil : ¬ t.Selects [] name := by
  rintro ⟨before, later, heq, -⟩
  cases before <;> cases heq

theorem selects_concat (t : Target σ) (steps : List Step) (s : Step) (name : String) :
    t.Selects (steps ++ [s]) name ↔
      (s = .call (.reset name) ∧ (t.through steps).Admits name ∧
        ((t.through steps).reset name).1 = .ok ()) ∨
      (¬ (t.through steps).LetsGo s ∧ t.Selects steps name) := by
  constructor
  · rintro ⟨before, later, heq, hadmits, hok, hkept⟩
    rcases List.eq_nil_or_concat' later with rfl | ⟨mid, s', rfl⟩
    · obtain ⟨rfl, hs⟩ := List.append_inj' heq rfl
      cases hs
      exact .inl ⟨rfl, hadmits, hok⟩
    · rw [← List.cons_append, ← List.append_assoc] at heq
      obtain ⟨rfl, hs⟩ := List.append_inj' heq rfl
      cases hs
      refine .inr ⟨hkept mid s [] rfl, before, mid, rfl, hadmits, hok, fun m s' rest hmid => ?_⟩
      exact hkept m s' (rest ++ [s]) (by simp [hmid])
  · rintro (⟨rfl, hadmits, hok⟩ | ⟨hlast, before, later, rfl, hadmits, hok, hkept⟩)
    · refine ⟨steps, [], rfl, hadmits, hok, fun mid s rest hnil => ?_⟩
      cases mid <;> cases hnil
    · refine ⟨before, later ++ [s], by simp, hadmits, hok, fun mid s' rest heq => ?_⟩
      rcases List.eq_nil_or_concat' rest with rfl | ⟨front, last, rfl⟩
      · obtain ⟨rfl, hs⟩ := List.append_inj' heq rfl
        cases hs
        exact hlast
      · rw [← List.cons_append, ← List.append_assoc] at heq
        exact hkept mid s' front (List.append_inj' heq rfl).1

theorem database?_through (h : t.database? = none) (steps : List Step) (name : String) :
    (t.through steps).database? = some name ↔ t.Selects steps name := by
  induction steps using List.reverseRecOn with
  | nil => simp [through, h, not_selects_nil]
  | append_singleton steps s ih => rw [through_concat, database?_step, selects_concat, ih]

/-- A target of any engine through any steps after it was connected. -/
theorem session_follows_history {dataDir : Path} {busyTimeoutMs : UInt64} {disk : Disk}
    (connected : connect dataDir busyTimeoutMs disk = (.ok (), t)) (steps : List Step) :
    let u := t.through steps
    ((u.database?.isSome = true ↔ u.handle?.isSome = true) ∧
      (u.handle?.isSome = true → u.isOpen = true)) ∧
    (∀ name, u.database? = some name ↔ t.Selects steps name) ∧
    (.call .close ∈ steps →
      u.isOpen = false ∧
      (∀ line, ∃ message, u.execute line = (.error (.fatal message), u)) ∧
      (∃ details, u.commit = (.error (.connection "commit" details), u)) ∧
      (∀ name, (u.reset name).2 = u ∧ (checkDatabaseName name = .ok () →
        ∃ details, (u.reset name).1 = .error (.connection "reset_database" details))) ∧
      u.close = (.ok (), u)) ∧
    (u.isOpen = true → u.database? = none →
      (∀ line, ∃ message, u.execute line = (.error (.rejected message), u)) ∧
      u.commit = (.ok (), u)) := by
  intro u
  have hsound := (sound_of_connect connected).through steps
  refine ⟨⟨hsound.selected, hsound.opened⟩,
    database?_through (database?_of_connect connected) steps, fun hclose => ?_,
    fun hopen hnone => ?_⟩
  · have hclosed : u.isOpen = false := isOpen_through_of_close hclose
    refine ⟨hclosed, fun line => ⟨_, execute_of_closed hclosed line⟩,
      ⟨_, commit_of_closed hclosed⟩, fun name => ⟨?_, fun valid => ?_⟩,
      close_of_closed hclosed hsound⟩
    · exact reset_of_not_admits (not_admits_of_closed hclosed)
    · exact ⟨_, congrArg Prod.fst (reset_of_closed hclosed valid)⟩
  · have hhandle := hsound.handle?_eq_none_iff.2 hnone
    exact ⟨fun line => ⟨_, execute_of_none hopen hhandle line⟩, commit_of_none hopen hhandle⟩

theorem session_follows_history_reset :
    let t : FileTarget := (connect (.ofString "data") 5000 .initial).2
    let steps : List Step := [.call (.execute "SELECT 1"), .call (.reset "a"),
      .elsewhere fun d => (d.removeFile (.ofString "data/a.sqlite3")).2, .call (.reset "a b")]
    connect (.ofString "data") 5000 .initial = (.ok (), t) ∧
      (t.through steps).database? = some "a" ∧ (t.through steps).isOpen = true ∧
      (t.through (steps ++ [.call .close])).isOpen = false ∧
      ∀ line, ∃ message, ((t.through (steps ++ [.call .close])).execute line).1 =
        .error (.fatal message) := by
  intro t steps
  have connected : connect (.ofString "data") 5000 .initial = (.ok (), t) :=
    Prod.ext (by decide +kernel) rfl
  obtain ⟨⟨hheld, hopen⟩, hselects, -⟩ := session_follows_history connected steps
  obtain ⟨-, -, hclosed, -⟩ := session_follows_history connected (steps ++ [.call .close])
  have hdatabase : (t.through steps).database? = some "a" := by
    refine (hselects "a").mpr ⟨[.call (.execute "SELECT 1")], _, rfl,
      ⟨by decide, by decide +kernel⟩, by decide +kernel, fun mid s rest heq => ?_⟩
    match mid with
    | [] =>
      cases heq
      exact not_false
    | [_] =>
      cases heq
      exact fun hadmits => absurd hadmits.1 (by decide +kernel)
    | _ :: _ :: _ => simp at heq
  obtain ⟨hend, hfatal, -⟩ := hclosed (by simp)
  refine ⟨connected, hdatabase, hopen (hheld.mp (by rw [hdatabase]; rfl)), hend, fun line => ?_⟩
  obtain ⟨message, heq⟩ := hfatal line
  exact ⟨message, congrArg Prod.fst heq⟩

end SqlReplay.Replay.Target
