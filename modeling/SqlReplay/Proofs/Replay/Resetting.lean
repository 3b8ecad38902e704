import SqlReplay.Proofs.Replay.DatabasesApart
import SqlReplay.Proofs.Replay.Holdings
import SqlReplay.Proofs.Replay.Selection
import SqlReplay.Proofs.Sql.Holding

/-!
# What a reset leaves alone

Starting a database over lets go of the session on the one selected before, which may still write to
the files of its databases but loses nothing that is committed to them (`touches_deselect`), and
then touches no files but the four of the database itself, however it ends (`touches_reset`).
Through all steps the session stays on the file of the selected database (`OnFile.through`).  From
these follows what a reset does whether it succeeds or fails (`reset_empties_its_own`), of any
engine that keeps the promises on files.
-/

namespace SqlReplay.Replay

open Storage

/-! ## Dropping -/

section Drop

variable {d e : Disk} {paths : List Path}

theorem touches_dropFiles (d : Disk) (paths : List Path) :
    Disk.Touches paths [] d (Target.dropFiles paths d).2 := by
  induction paths generalizing d with
  | nil => exact Disk.Touches.refl [] [] d
  | cons p rest ih =>
    have hfirst := (Disk.touches_removeFile d p).mono
      (List.cons_subset_cons p (List.nil_subset rest)) (List.nil_subset [])
    have hrest : ∀ e, Disk.Touches (p :: rest) [] e (Target.dropFiles rest e).2 := fun e =>
      (ih e).mono (List.subset_cons_self p rest) (List.nil_subset [])
    unfold Target.dropFiles
    rcases hremove : d.removeFile p with ⟨fault | _, e⟩
    · rw [hremove] at hfirst
      dsimp only
      split
      · exact hfirst.trans (hrest e)
      · exact hfirst
    · rw [hremove] at hfirst
      exact hfirst.trans (hrest e)

theorem lacks_dropFiles_of_lacks {p : Path} (h : d.Lacks p) (paths : List Path) :
    (Target.dropFiles paths d).2.Lacks p := by
  induction paths generalizing d with
  | nil => exact h
  | cons q rest ih =>
    have hfirst := h.removeFile q
    unfold Target.dropFiles
    rcases hremove : d.removeFile q with ⟨fault | _, e⟩
    · rw [hremove] at hfirst
      dsimp only
      split
      · exact ih hfirst
      · exact hfirst
    · rw [hremove] at hfirst
      exact ih hfirst

/-- None of the files is there once they could be dropped. -/
theorem lacks_dropFiles (hfaults : some Fault.missing ∉ d.faults)
    (hdrop : Target.dropFiles paths d = (.ok (), e)) : ∀ p ∈ paths, e.Lacks p := by
  induction paths generalizing d with
  | nil => exact nofun
  | cons p rest ih =>
    have hgone := Disk.lacks_removeFile (p := p) hfaults
    have hfewer := (Disk.touches_removeFile d p).faults
    unfold Target.dropFiles at hdrop
    have hnext : ∀ {f : Disk}, f.Lacks p → f.faults <:+ d.faults →
        Target.dropFiles rest f = (.ok (), e) → ∀ q ∈ p :: rest, e.Lacks q := by
      intro f hf hsuffix hrest q hq
      rcases List.mem_cons.1 hq with rfl | hq
      · have hkept := lacks_dropFiles_of_lacks hf rest
        rwa [hrest] at hkept
      · exact ih (fun hmissing => hfaults (hsuffix.subset hmissing)) hrest q hq
    rcases hremove : d.removeFile p with ⟨fault | _, f⟩
    · rw [hremove] at hgone hfewer hdrop
      dsimp only at hdrop
      split at hdrop
      · next hmissing =>
        exact hnext (hgone (.inr (by rw [hmissing]))) hfewer hdrop
      · cases hdrop
    · rw [hremove] at hgone hfewer hdrop
      exact hnext (hgone (.inl rfl)) hfewer hdrop

end Drop

/-- Whether no file of one database is one of another, or would be made in its place. -/
def Apart (d : Disk) (p q : Path) : Prop :=
  ∀ a ∈ filesOf p, ∀ b ∈ filesOf q,
    (∀ place, d.seat? b = some place → d.seat? a ≠ some place) ∧
    ∀ place other id, d.locate b = .ok (.file place id) → d.locate a ≠ .ok (.file other id)

namespace Target

variable {σ : Type} [Engine σ] {H : Holdings σ} {t : Target σ} {name : String}

/-! ## Letting go -/

/-- The files of the session that a target holds. -/
def heldFiles (H : Holdings σ) (t : Target σ) : List Path := t.handle?.elim [] H.files

/-- Whether the files of the session that a target holds are where it has opened them. -/
def Intact (H : Holdings σ) (t : Target σ) : Prop := ∀ s, t.handle? = some s → H.Intact s t.disk

theorem touches_deselect (laws : HoldingLaws H) (hintact : t.Intact H) :
    Disk.Touches (t.heldFiles H) (t.heldFiles H) t.disk t.deselect.2.disk := by
  cases hs : t.handle? with
  | none =>
    rw [deselect_of_none hs]
    exact Disk.Touches.refl _ _ t.disk
  | some s =>
    rw [deselect_of_handle hs, heldFiles, hs]
    exact laws.close_touches (hintact s hs)

/-- Letting go of a session keeps what is committed to a database, be it one of the session or one
that has nothing to do with it. -/
theorem content_deselect (laws : HoldingLaws H) (hintact : t.Intact H) (hd : t.disk.Numbered)
    {p : Path} (hp : ∀ s, t.handle? = some s → (∃ q ∈ H.databases s, SameDatabase t.disk p q) ∨
      ∀ q ∈ H.databases s, Apart t.disk q p) :
    H.content p t.deselect.2.disk = H.content p t.disk := by
  cases hs : t.handle? with
  | none => rw [deselect_of_none hs]
  | some s =>
    rw [deselect_of_handle hs]
    rcases hp s hs with ⟨q, hq, hsame⟩ | hapart
    · exact laws.close_content (hintact s hs) hd hq hsame
    · refine laws.content_of_touches (laws.close_touches (hintact s hs)) hd ?_ ?_
      · intro b hb place hseat a ha
        obtain ⟨q, hq, ha⟩ := List.mem_flatMap.1 ha
        exact (hapart q hq a ha b hb).1 place hseat
      · intro b hb place id hlocate a ha other
        obtain ⟨q, hq, ha⟩ := List.mem_flatMap.1 ha
        exact (hapart q hq a ha b hb).2 place other id hlocate

/-! ## Starting over -/

theorem touches_renew (name : String) (laws : HoldingLaws H)
    (hfaults : some Fault.missing ∉ t.disk.faults) :
    Disk.Touches (databaseFiles t.dataDir name) [] t.disk (renew name t).2.disk := by
  have hdropped := touches_dropFiles t.disk (databaseFiles t.dataDir name)
  unfold renew
  rcases hdrop : dropFiles (databaseFiles t.dataDir name) t.disk with ⟨fault | _, d⟩
  · rwa [hdrop] at hdropped
  · rw [hdrop] at hdropped
    have hopened := laws.touches_openDatabase (lacks_dropFiles hfaults hdrop) t.busyTimeoutMs
    simp only [select]
    generalize openDatabase (σ := σ) t.busyTimeoutMs (databaseFile t.dataDir name) d = got
      at hopened
    obtain ⟨_ | s, e⟩ := got
    · exact hdropped.trans hopened
    · exact hdropped.trans hopened

theorem faults_deselect (laws : HoldingLaws H) (hintact : t.Intact H)
    (hfaults : some Fault.missing ∉ t.disk.faults) :
    some Fault.missing ∉ t.deselect.2.disk.faults := fun hmissing =>
  hfaults ((touches_deselect laws hintact).faults.subset hmissing)

/-- Once the session is let go of, nothing but the four files is touched. -/
theorem touches_reset (laws : HoldingLaws H) (hintact : t.Intact H)
    (hfaults : some Fault.missing ∉ t.disk.faults) (h : t.Admits name) :
    Disk.Touches (databaseFiles t.dataDir name) [] t.deselect.2.disk (t.reset name).2.disk := by
  have hrenewed := touches_renew name laws (faults_deselect laws hintact hfaults)
  rw [dataDir_deselect] at hrenewed
  rw [reset_of_admits h]
  generalize t.deselect = got at hrenewed
  obtain ⟨fault | _, u⟩ := got
  · exact Disk.Touches.refl _ _ u.disk
  · exact hrenewed

/-- A database that could be renewed is selected, in a transaction, and holds nothing. -/
theorem selected_of_renew (name : String) (laws : HoldingLaws H) (hd : t.disk.Numbered)
    (hfaults : some Fault.missing ∉ t.disk.faults) (hok : (renew name t).1 = .ok ()) :
    ∃ s, (renew name t).2.handle? = some s ∧ (renew name t).2.database? = some name ∧
      Engine.autocommits s = false ∧ H.seen s (renew name t).2.disk = H.empty ∧
      H.content (databaseFile t.dataDir name) (renew name t).2.disk = H.empty := by
  have hsame : renew name t = (.ok (), (renew name t).2) := Prod.ext hok rfl
  obtain ⟨d, s, e, hdrop, hopen, hrenewed⟩ := renew_eq_ok hsame
  have hdropped := touches_dropFiles t.disk (databaseFiles t.dataDir name)
  rw [hdrop] at hdropped
  obtain ⟨-, -, hauto⟩ := laws.opened_of_openDatabase hopen
  obtain ⟨hseen, hcontent⟩ := laws.empty_of_openDatabase (hdropped.numbered hd)
    (lacks_dropFiles hfaults hdrop) hopen
  rw [hrenewed]
  exact ⟨s, rfl, rfl, hauto, hseen, hcontent⟩

theorem reset_fails_of_not_admits (h : ¬ t.Admits name) : (t.reset name).1 ≠ .ok () := by
  unfold reset
  cases hcheck : checkDatabaseName name with
  | error fault => exact nofun
  | ok _ =>
    cases hopen : t.isOpen with
    | false => exact nofun
    | true => exact absurd ⟨hcheck, hopen⟩ h

theorem selected_of_reset (laws : HoldingLaws H) (hintact : t.Intact H) (hd : t.disk.Numbered)
    (hfaults : some Fault.missing ∉ t.disk.faults) (hok : (t.reset name).1 = .ok ()) :
    ∃ s, (t.reset name).2.handle? = some s ∧ (t.reset name).2.database? = some name ∧
      Engine.autocommits s = false ∧ H.seen s (t.reset name).2.disk = H.empty ∧
      H.content (databaseFile t.dataDir name) (t.reset name).2.disk = H.empty := by
  have hadmits : t.Admits name := by
    by_contra h
    exact reset_fails_of_not_admits h hok
  have hrenewed := fun hok => selected_of_renew (t := t.deselect.2) name laws
    ((touches_deselect laws hintact).numbered hd) (faults_deselect laws hintact hfaults) hok
  rw [dataDir_deselect] at hrenewed
  rw [reset_of_admits hadmits] at hok ⊢
  generalize t.deselect = got at hok hrenewed ⊢
  obtain ⟨fault | _, u⟩ := got
  · cases hok
  · exact hrenewed hok

/-- What is committed to another database stays. -/
theorem content_reset (laws : HoldingLaws H) (hintact : t.Intact H) (hd : t.disk.Numbered)
    (hfaults : some Fault.missing ∉ t.disk.faults) (h : t.Admits name) {m : String}
    (hm : checkDatabaseName m = .ok ()) (hne : m ≠ name) :
    H.content (databaseFile t.dataDir m) (t.reset name).2.disk =
      H.content (databaseFile t.dataDir m) t.deselect.2.disk := by
  refine laws.content_of_touches (touches_reset laws hintact hfaults h)
    ((touches_deselect laws hintact).numbered hd) ?_ fun _ _ _ _ _ _ => nofun
  intro q hq place hseat p hp
  exact seat?_databaseFiles_ne h.1 hm hne hp hq hseat

/-! ## Sessions on the files of their databases -/

/-- Whether the session of a target is on the file of the selected database. -/
def OnFile (H : Holdings σ) (t : Target σ) : Prop :=
  ∀ s, t.handle? = some s → ∃ prev, t.database? = some prev ∧ H.own s = databaseFile t.dataDir prev

theorem own_runLine (laws : HoldingLaws H) (line : String) (s : σ) (d : Disk) :
    H.own (runLine line s d).2.1 = H.own s := by
  have hfirst := laws.own_next (Engine.batch line) s d
  unfold runLine
  generalize Engine.next (Engine.batch line) s d = got at hfirst
  obtain ⟨fault | _ | ⟨statement, rest⟩, s₁, d₁⟩ := got
  · exact hfirst
  · exact hfirst
  · have hsecond := laws.own_next rest s₁ d₁
    dsimp only at hfirst ⊢
    generalize Engine.next rest s₁ d₁ = got at hsecond
    obtain ⟨fault | _ | _, s₂, d₂⟩ := got
    · exact hsecond.trans hfirst
    · exact ((laws.own_run statement s₂ d₂).trans hsecond).trans hfirst
    · exact hsecond.trans hfirst

theorem dataDir_step (t : Target σ) (s : Step) : (t.step s).dataDir = t.dataDir := by
  match s with
  | .call (.execute line) =>
    rcases t.execute_cases line with hsame | ⟨-, s, -, hran⟩
    · rw [step, hsame]
    · rw [step, hran]
  | .call .commit =>
    rcases t.commit_cases with hsame | ⟨-, s, -, -, hran⟩
    · rw [step, hsame]
    · rw [step, hran]
  | .call .close => exact dataDir_deselect _
  | .call (.reset name) =>
    by_cases hadmits : t.Admits name
    · rcases reset_cases hadmits with ⟨s, -, hreset⟩ | ⟨-, hreset⟩ <;> rw [step, hreset]
    · rw [step, reset_of_not_admits hadmits]
  | .elsewhere _ => rfl

omit [Engine σ] in
theorem onFile_of_none (h : t.handle? = none) : t.OnFile H :=
  fun _ hs => absurd (h.symm.trans hs) nofun

theorem onFile_renew (name : String) (laws : HoldingLaws H) (h : t.handle? = none) :
    OnFile H (renew name t).2 := by
  rcases renew_cases t name with ⟨s, hok, hrenewed⟩ | ⟨-, hrenewed⟩
  · have hpair : renew name t = (.ok (), (renew name t).2) := Prod.ext hok rfl
    obtain ⟨d, s', e, -, hopen, hsame⟩ := renew_eq_ok hpair
    obtain ⟨hdatabases, -, -⟩ := laws.opened_of_openDatabase hopen
    rw [hsame]
    intro s'' hs''
    cases hs''
    exact ⟨name, rfl, (List.cons.inj hdatabases).1⟩
  · rw [hrenewed]
    exact onFile_of_none h

theorem onFile_reset (laws : HoldingLaws H) (h : t.OnFile H) (name : String) :
    OnFile H (t.reset name).2 := by
  by_cases hadmits : t.Admits name
  · have hrenewed := onFile_renew name laws t.handle?_deselect
    have hlet := onFile_of_none (H := H) t.handle?_deselect
    rw [reset_of_admits hadmits]
    generalize t.deselect = got at hrenewed hlet
    obtain ⟨fault | _, u⟩ := got
    · exact hlet
    · exact hrenewed
  · rwa [reset_of_not_admits hadmits]

/-- No step takes the session to another file. -/
theorem OnFile.step (laws : HoldingLaws H) (h : t.OnFile H) (s : Step) : (t.step s).OnFile H := by
  match s with
  | .call (.execute line) =>
    rcases t.execute_cases line with hsame | ⟨-, s, hs, hran⟩
    · rwa [Target.step, hsame]
    · rw [Target.step, hran]
      intro s' hs'
      cases hs'
      rw [own_runLine laws]
      exact h s hs
  | .call .commit =>
    rcases t.commit_cases with hsame | ⟨-, s, hs, -, hran⟩
    · rwa [Target.step, hsame]
    · rw [Target.step, hran]
      intro s' hs'
      cases hs'
      rw [laws.own_perform]
      exact h s hs
  | .call .close => exact onFile_of_none (handle?_deselect _)
  | .call (.reset name) => exact onFile_reset laws h name
  | .elsewhere _ => exact h

/-- Through all steps a target keeps its directory, and its session the file of its database. -/
theorem OnFile.through (laws : HoldingLaws H) (h : t.OnFile H) (steps : List Step) :
    (t.through steps).OnFile H ∧ (t.through steps).dataDir = t.dataDir := by
  induction steps generalizing t with
  | nil => exact ⟨h, rfl⟩
  | cons s rest ih =>
    obtain ⟨honfile, hdir⟩ := ih (h.step laws s)
    exact ⟨honfile, hdir.trans (t.dataDir_step s)⟩

omit [Engine σ] in
theorem onFile_of_connect {dataDir : Path} {busyTimeoutMs : UInt64} {disk : Disk}
    (connected : connect dataDir busyTimeoutMs disk = (.ok (), t)) :
    t.OnFile H ∧ t.dataDir = dataDir := by
  unfold connect at connected
  rcases hmake : disk.makeDirectories dataDir with ⟨_ | _, d⟩ <;>
    rw [hmake] at connected <;> cases connected
  exact ⟨onFile_of_none rfl, rfl⟩

/-! ## All cases -/

/-- What a reset of a target does, whether it succeeds or fails. -/
structure EmptiesItsOwn (H : Holdings σ) (t : Target σ) (name : String) : Prop where
  /-- If it succeeds, the database is selected, in a transaction, and holds no table. -/
  selected : (t.reset name).1 = .ok () → ∃ s, (t.reset name).2.handle? = some s ∧
    (t.reset name).2.database? = some name ∧ Engine.autocommits s = false ∧
    H.seen s (t.reset name).2.disk = H.empty ∧
    H.content (databaseFile t.dataDir name) (t.reset name).2.disk = H.empty
  /-- A bad name or a session that has ended change nothing at all. -/
  refused : checkDatabaseName name ≠ .ok () ∨ t.isOpen = false →
    (t.reset name).1 ≠ .ok () ∧ (t.reset name).2 = t
  /-- If it fails otherwise, the target stays open with no database selected. -/
  failed : checkDatabaseName name = .ok () → t.isOpen = true → (t.reset name).1 ≠ .ok () →
    (t.reset name).2.isOpen = true ∧ (t.reset name).2.handle? = none ∧
    (t.reset name).2.database? = none
  /-- Past its checks, what was not committed to the database before is lost, however it ends: the
  session is closed, which commits nothing, and after that only the four files come and go. -/
  discarded : checkDatabaseName name = .ok () → t.isOpen = true → ∀ {s}, t.handle? = some s →
    ∃ prev, t.database? = some prev ∧
      H.content (databaseFile t.dataDir prev) (Engine.close s t.disk).2 =
        H.content (databaseFile t.dataDir prev) t.disk ∧
      Disk.Touches (databaseFiles t.dataDir name) [] (Engine.close s t.disk).2
        (t.reset name).2.disk
  /-- What is committed to other databases stays, of the one before too. -/
  others : ∀ {m}, checkDatabaseName m = .ok () → m ≠ name →
    (∀ s, t.handle? = some s → t.database? = some m ∨
      (∃ q ∈ H.attached s, SameDatabase t.disk (databaseFile t.dataDir m) q) ∨
      ∀ q ∈ H.databases s, Apart t.disk q (databaseFile t.dataDir m)) →
    H.content (databaseFile t.dataDir m) (t.reset name).2.disk =
      H.content (databaseFile t.dataDir m) t.disk
  /-- So do all files but the four of the database and those of the session before. -/
  elsewhere : ∀ {q}, (∀ place, t.disk.seat? q = some place →
      (∀ p ∈ databaseFiles t.dataDir name, t.disk.seat? p ≠ some place) ∧
      ∀ p ∈ t.heldFiles H, t.disk.seat? p ≠ some place) →
    (∀ place id, t.disk.locate q = .ok (.file place id) → ∀ p ∈ t.heldFiles H, ∀ other,
      t.disk.locate p ≠ .ok (.file other id)) →
    ∀ content, (t.reset name).2.disk.read q = .ok content ↔ t.disk.read q = .ok content
  directories : Disk.SameDirectories t.disk (t.reset name).2.disk

theorem failed_of_reset (h : t.Admits name) (herror : (t.reset name).1 ≠ .ok ()) :
    (t.reset name).2.isOpen = true ∧ (t.reset name).2.handle? = none ∧
      (t.reset name).2.database? = none := by
  rcases reset_cases h with ⟨s, hok, -⟩ | ⟨-, hreset⟩
  · exact absurd hok herror
  · rw [hreset]
    exact ⟨h.2, rfl, rfl⟩

theorem emptiesItsOwn (laws : HoldingLaws H) (honfile : t.OnFile H) (hintact : t.Intact H)
    (hd : t.disk.Numbered) (hfaults : some Fault.missing ∉ t.disk.faults) (name : String) :
    t.EmptiesItsOwn H name where
  selected := selected_of_reset laws hintact hd hfaults
  refused hcause := by
    have hnot : ¬ t.Admits name := fun hadmits => hcause.elim (fun h => h hadmits.1)
      (fun h => Bool.false_ne_true (h.symm.trans hadmits.2))
    exact ⟨reset_fails_of_not_admits hnot, reset_of_not_admits hnot⟩
  failed hcheck hopen herror := failed_of_reset ⟨hcheck, hopen⟩ herror
  discarded hcheck hopen s hs := by
    obtain ⟨prev, hprev, hown⟩ := honfile s hs
    have hclose := laws.close_content (p := H.own s) (hintact s hs) hd List.mem_cons_self (.inl rfl)
    have htouches := touches_reset laws hintact hfaults ⟨hcheck, hopen⟩
    rw [hown] at hclose
    rw [deselect_of_handle hs] at htouches
    exact ⟨prev, hprev, hclose, htouches⟩
  others {m} hm hne hapart := by
    -- The names need only be apart if the reset gets to the files; a bad name stops it before.
    by_cases hadmits : t.Admits name
    · refine (content_reset laws hintact hd hfaults hadmits hm hne).trans
        (content_deselect laws hintact hd fun s hs => ?_)
      rcases hapart s hs with hselected | ⟨q, hq, hsame⟩ | hapart
      · obtain ⟨prev, hprev, hown⟩ := honfile s hs
        obtain rfl : m = prev := Option.some.inj (hselected.symm.trans hprev)
        exact .inl ⟨H.own s, List.mem_cons_self, .inl hown.symm⟩
      · exact .inl ⟨q, List.mem_cons_of_mem _ hq, hsame⟩
      · exact .inr hapart
    · rw [reset_of_not_admits hadmits]
  elsewhere {q} hq hfile content := by
    by_cases hadmits : t.Admits name
    · have hlet := touches_deselect laws hintact
      have hreset := touches_reset laws hintact hfaults hadmits
      refine (hreset.read_iff (hlet.numbered hd) (fun place hseat p hp => ?_)
        (fun _ _ _ _ => nofun)).trans
        (hlet.read_iff hd (fun place hseat => (hq place hseat).2) hfile)
      rw [← Disk.seat?_congr hlet.directories] at hseat ⊢
      exact (hq place hseat).1 p hp
    · rw [reset_of_not_admits hadmits]
  directories := by
    by_cases hadmits : t.Admits name
    · exact (touches_deselect laws hintact).directories.trans
        (touches_reset laws hintact hfaults hadmits).directories
    · rw [reset_of_not_admits hadmits]
      exact Disk.SameDirectories.refl t.disk

end Target

end SqlReplay.Replay
