import SqlReplay.Proofs.Sql.Alone

/-!
# The operations of a session alone

Each operation of a session that is alone with its file answers as the two databases alone demand
(`Site.Mirrors.step`), and a statement is prepared to what the names in them demand, whatever the
session knew of them before (`Site.Mirrors.prepareFirst`).
-/

namespace SqlReplay.Sql

open Storage

namespace Site

variable {w : Site} {stored : Option Database} {a b : Solo} {s : Session} {d : Disk}

theorem Answers.of_stored {want : Except Error Unit × Solo}
    {got : Except Error Unit × Session × Disk} (h : w.Answers a want got)
    (hab : a.stored = b.stored) : w.Answers b want got := by
  rcases h with h | h
  · exact Or.inl h
  · exact Or.inr (hab ▸ h)

/-! ## Changes -/

theorem Mirrors.change (h : w.Mirrors a s d) (c : Change) :
    w.Answers a (a.change c) (s.change d c) := by
  have hbegin := h.beginWrite
  unfold Session.change Solo.change
  generalize s.beginWrite d = got at hbegin ⊢
  obtain ⟨result, s', d'⟩ := got
  rcases hbegin with ⟨hresult, hbegun⟩ | hstruck
  · cases hresult
    have hview : s'.view d' = .ok a.begun.view := hbegun.view
    simp only [hview]
    have hknow := hbegun.toFollows.know (SameNames.refl a.begun.view)
    rcases hknow.openJournal_if (c.writes a.begun.view) with
      ⟨e, hopen, hfollows, hjournal⟩ | ⟨fault, hfault, hopen⟩
    · have hmirrors : w.Mirrors a.begun { s' with known := some a.begun.view } e :=
        ⟨hfollows, fun _ => a.pages_begun_pos⟩
      simp only [hopen, hfollows.outcome]
      cases houtcome : a.begun.outcome a.begun.view c with
      | error fault =>
        have hheld := hmirrors.holding hjournal fun _ => SameNames.refl a.begun.view
        obtain ⟨hresult, hgiven⟩ := hheld.giveUp fault
        refine Or.inl ?_
        cases hwrites : c.writes a.begun.view <;>
          · rw [hwrites] at hresult hgiven
            exact ⟨hresult, hgiven⟩
      | ok changed =>
        have hnames : c.writes a.begun.view = false → SameNames changed a.begun.view :=
          fun hwrites => sameNames_of_not_writes hwrites (Solo.run_of_outcome houtcome)
        have hheld := hmirrors.holding hjournal hnames
        exact hheld.settle.of_stored (by simp)
    · simp only [hopen]
      refine Or.inr ?_
      rw [← a.stored_begun]
      exact hknow.kept.spent.giveUp hknow.serves hfault rfl
  · obtain ⟨cause, hcause, -⟩ := hstruck.fatal
    cases hcause
    exact Or.inr hstruck

/-! ## Looking -/

theorem Mirrors.read (h : w.Mirrors a s d) :
    ∃ s' e, s.read d = (.ok (), s', e) ∧ w.Mirrors a s' e := by
  obtain ⟨e, he, hmirrors⟩ := h.lockShared
  simp only [Session.read, he, hmirrors.view]
  refine ⟨_, _, rfl, ?_⟩
  split
  · exact h.know (SameNames.refl _)
  · exact hmirrors.know (SameNames.refl _)

theorem Mirrors.limitPages (h : w.Mirrors a s d) (limit : Option Nat) :
    w.Mirrors { a with pageLimit := limit } { s with pageLimit := limit } d :=
  { h with
    serves := ⟨h.serves.id, h.serves.file, h.serves.path⟩
    pageLimit := rfl }

/-! ## Beginning -/

theorem Mirrors.enter (h : w.Mirrors a s d) :
    w.Mirrors { a with autocommit := false } { s with autocommit := false } d :=
  { h with
    serves := ⟨h.serves.id, h.serves.file, h.serves.path⟩
    autocommit := rfl }

/-- A session that could take the lock it asked for enters a transaction, unless it is in one. -/
theorem Answers.enter {got : Except Error Unit × Session × Disk} :
    w.Answers a (.ok (), b) got →
    w.Answers a (if b.autocommit then (.ok (), { b with autocommit := false })
      else (.error .nestedTransaction, b)) (match got with
      | (.error fault, s, d) => (.error fault, s, d)
      | (.ok (), s, d) =>
        if s.autocommit then (.ok (), { s with autocommit := false }, d)
        else (.error .nestedTransaction, s, d)) := by
  obtain ⟨result, s', e⟩ := got
  intro h
  rcases h with ⟨hresult, hmirrors⟩ | hstruck
  · cases hresult
    have hauto : s'.autocommit = b.autocommit := hmirrors.autocommit
    refine Or.inl ?_
    simp only [hauto]
    split
    · exact ⟨rfl, hmirrors.enter⟩
    · exact ⟨rfl, hmirrors⟩
  · obtain ⟨cause, hcause, -⟩ := hstruck.fatal
    cases hcause
    exact Or.inr hstruck

theorem Mirrors.begin (h : w.Mirrors a s d) (mode : BeginMode) :
    w.Answers a (a.begin mode) (s.begin d mode) := by
  cases mode with
  | deferred =>
    have hidle : w.Answers a (.ok (), a) (.ok (), s, d) := Or.inl ⟨rfl, h⟩
    exact hidle.enter
  | immediate => exact h.beginWrite.enter
  | exclusive => exact h.beginAlone.enter

/-! ## Attaching -/

theorem any_attached {xs : List (String × Id)} {ys : List (String × Option Database)}
    (h : List.Forall₂ (w.Shows d) xs ys) (name : String) :
    xs.any (sameName name ·.1) = ys.any (sameName name ·.1) := by
  induction h with
  | nil => rfl
  | cons hx _ ih => simp only [List.any_cons, hx.1, ih]

/-- The session has one more file attached. -/
theorem Mirrors.attached_append (h : w.Mirrors a s d) {x : String × Id}
    {y : String × Option Database} (hxy : w.Shows d x y) :
    w.Mirrors { a with attached := a.attached ++ [y] } { s with attached := s.attached ++ [x] } d :=
  { h with
    serves := ⟨h.serves.id, h.serves.file, h.serves.path⟩
    attached := List.rel_append h.attached (List.Forall₂.cons hxy List.Forall₂.nil) }

/-- The session goes on on a disk with a new file. -/
theorem Mirrors.move (h : w.Mirrors a s d) {e : Disk} (hkept : w.Kept a.stored e)
    (hde : w.Older d e) (hnodes : ∀ place, d.node? place ≠ none → e.node? place = d.node? place)
    (hfile : e.file? w.file = d.file? w.file) : w.Mirrors a s e := by
  refine ⟨h.toFollows.move hkept hde fun hworking => ?_, ?_⟩
  · obtain ⟨id, hid⟩ := h.journal hworking
    exact ⟨id, by rw [hnodes w.beside (by simp [hid]), hid]⟩
  · have hlock : s.lock? e = s.lock? d := by
      simp only [Session.lock?, Session.locks, h.serves.file, hfile]
    rw [hlock]
    exact h.writing

theorem Mirrors.spent (h : w.Mirrors a s d) : w.Mirrors a s d.spent :=
  h.move h.kept.spent (w.older_spent d) (fun _ _ => rfl) rfl

theorem Mirrors.attach (h : w.Mirrors a s d) (file name : String) :
    w.Answers a (a.attach w.offer file name) (s.attach d file name) := by
  unfold Session.attach Solo.attach
  rw [any_attached h.attached]
  split
  · exact Or.inl ⟨rfl, h⟩
  split
  · exact Or.inl ⟨rfl, h⟩
  unfold offer
  by_cases hslash : (Path.ofString file).hasTrailingSlash = true
  · obtain ⟨fault, hopen⟩ := Disk.openFile_of_no_seat (d := d) (Or.inr hslash)
    simp only [hopen, hslash, if_true]
    exact Or.inl ⟨rfl, h.spent.forget⟩
  rw [Bool.not_eq_true] at hslash
  simp only [hslash, Bool.false_eq_true, if_false]
  cases hseat : w.origin.seat? (Path.ofString file) with
  | none =>
    obtain ⟨fault, hopen⟩ :=
      Disk.openFile_of_no_seat (d := d) (Or.inl ((h.kept.seat? _).trans hseat))
    simp only [hopen]
    exact Or.inl ⟨rfl, h.spent.forget⟩
  | some place =>
    rcases h.kept.openFile hseat hslash with
      ⟨fault, hfault, hopen⟩ | ⟨id, e, hopen, hkept, holder, hnode, hnodes, hfile⟩
    · simp only [hopen]
      have hserves : w.Serves { s with known := none } := h.forget.serves
      exact Or.inr (Struck.intro hserves h.kept.spent hfault rfl)
    · have hmirrors := h.move hkept holder hnodes hfile
      simp only [hopen]
      by_cases hplace : place = w.main
      · rw [hplace, hkept.here, Option.some.injEq, Node.file.injEq] at hnode
        simp only [hplace, if_true, ← hnode, hkept.committed]
        exact Or.inl ⟨rfl, hmirrors.attached_append ⟨rfl, rfl⟩⟩
      · have hcommitted :
            Session.committed e id = Session.databaseOf (w.origin.holds place) := by
          rw [committed_eq, ← hkept.elsewhere place hplace, Disk.holds_of_file hnode]
        simp only [hplace, if_false, ← hcommitted]
        cases hheld : Session.committed e id with
        | error fault => exact Or.inl ⟨rfl, hmirrors.forget⟩
        | ok db =>
          have hlt := hkept.numbered.node_lt hnode
          refine Or.inl ⟨rfl, hmirrors.attached_append ⟨rfl, ?_, hlt, hheld⟩⟩
          intro hid
          exact hplace (hkept.sole place (hid ▸ hnode))

/-! ## Operations -/

/-- An operation of a session that is alone with its file gives what the two databases demand. -/
theorem Mirrors.step (h : w.Mirrors a s d) {operation : Operation}
    (hoperation : ∀ writes fault, operation ≠ .outdated writes fault) :
    w.Answers a (a.step w.offer operation) (s.step d operation) := by
  cases operation with
  | begin mode => exact h.begin mode
  | commit =>
    simp only [Session.step, Solo.step, h.autocommit]
    split
    · exact Or.inl ⟨rfl, h⟩
    · exact h.commit
  | rollback =>
    simp only [Session.step, Solo.step, h.autocommit]
    split
    · exact Or.inl ⟨rfl, h⟩
    · exact Or.inl ⟨rfl, h.rollBack⟩
  | limitPages n =>
    obtain ⟨s', e, hread, hmirrors⟩ := h.read
    simp only [Session.step, Solo.step, hread, hmirrors.pagesInUse]
    exact Or.inl ⟨rfl, hmirrors.limitPages _⟩
  | attach file name => exact h.attach file name
  | query reads =>
    cases reads with
    | false => exact Or.inl ⟨rfl, h⟩
    | true =>
      obtain ⟨s', e, hread, hmirrors⟩ := h.read
      simp only [Session.step, Solo.step, hread, if_true]
      exact Or.inl ⟨rfl, hmirrors⟩
  | change c => exact h.change c
  | outdated writes fault => exact absurd rfl (hoperation writes fault)

/-! ## Preparing -/

theorem Follows.lookup (h : w.Follows a s d) : s.lookup d = .ok a.view := by
  unfold Session.lookup
  rw [h.kept.barred h.serves, Bool.and_false, if_neg Bool.false_ne_true, h.view]

theorem schema_attached (hd : w.Kept a.stored d) {xs : List (String × Id)}
    {ys : List (String × Option Database)} (h : List.Forall₂ (w.Shows d) xs ys) :
    (xs.map fun x => (x.1, match Session.committed d x.2 with
      | .ok db => db
      | .error _ => .empty)) = ys.map fun y => (y.1, y.2.getD a.committed) := by
  induction h with
  | nil => rfl
  | @cons x y xs ys hxy _ ih =>
    rw [List.map_cons, List.map_cons, ih]
    obtain ⟨hname, hfile⟩ := hxy
    congr 2
    cases hy : y.2 with
    | none =>
      rw [hy] at hfile
      simp only at hfile
      rw [hfile, hd.committed]
      rfl
    | some db =>
      rw [hy] at hfile
      rw [hfile.2.2]
      rfl

/-- Names are looked up in the databases that the session alone has. -/
theorem Follows.schema (h : w.Follows a s d) (db : Database) :
    s.schema d db = ⟨db, a.schema.attached⟩ :=
  congrArg (Schema.mk db) (schema_attached h.kept h.attached)

theorem Mirrors.knowing (h : w.Mirrors a s d) : w.Mirrors a (s.knowing d) d := by
  simp only [Session.knowing, h.lookup]
  exact h.know (SameNames.refl _)

theorem Mirrors.doubting (h : w.Mirrors a s d) : w.Mirrors a (s.doubting d) d := by
  unfold Session.doubting
  split
  · split
    · exact h
    · exact h.forget
  · exact h

theorem Mirrors.prepareAnew (h : w.Mirrors a s d) (ts : List Token) :
    (s.prepareAnew d ts).1 = a.prepare ts ∧ w.Mirrors a (s.prepareAnew d ts).2 d := by
  have hschema : (s.lookup d).map (s.schema d) = .ok a.schema := by
    rw [h.lookup, Except.map, h.schema]
    rfl
  unfold Session.prepareAnew Solo.prepare
  rw [hschema]
  rcases Session.prepareIn (.ok a.schema) ts with ⟨result, asked⟩
  cases asked with
  | false => exact ⟨rfl, h⟩
  | true => exact ⟨rfl, h.knowing⟩

/-- What a session knows of the names makes no difference to what a statement is prepared to. -/
theorem Mirrors.prepareFirst (h : w.Mirrors a s d) (ts : List Token) :
    (s.prepareFirst d ts).1 = a.prepare ts ∧ w.Mirrors a (s.prepareFirst d ts).2 d := by
  have hanew := h.prepareAnew ts
  unfold Session.prepareFirst
  cases hknown : (if s.working.isNone then s.known else none) with
  | none => exact hanew
  | some known =>
    have hnames : SameNames known a.view := by
      split at hknown
      · exact h.known known hknown
      · cases hknown
    -- What the session knows stands for what is in the file, since every name denotes the same.
    have hsame : (Session.prepareIn (.ok (s.schema d known)) ts).1 = a.prepare ts := by
      have hin := prepareIn_congr (a := ⟨known, a.schema.attached⟩) (b := a.schema) hnames rfl ts
      rw [Solo.prepare, h.schema, hin]
    simp only [hsame, hanew.1]
    cases hprepare : a.prepare ts with
    | error fault =>
      simp only
      split
      · obtain ⟨hresult, hmirrors⟩ := h.doubting.prepareAnew ts
        exact ⟨hresult.trans hprepare, hmirrors⟩
      · exact ⟨rfl, h⟩
    | ok prepared =>
      rcases prepared with _ | ⟨operation, rest⟩
      · exact ⟨rfl, h⟩
      · simp only [Option.any_some]
        split
        · rename_i hchange hno
          rw [hchange] at hno
          cases hno
        · exact ⟨rfl, h.knowing⟩
        · exact ⟨rfl, h⟩

/-- Nothing that a session alone prepares has names that are out of date. -/
theorem ne_outdated_of_prepare {ts rest : List Token} {operation : Operation}
    (h : a.prepare ts = .ok (some (operation, rest))) (writes : Bool) (fault : Option Error) :
    operation ≠ .outdated writes fault := by
  obtain ⟨_, statement, schema, -, hprepare⟩ := prepareIn_eq_ok h
  rintro rfl
  cases prepared_of_prepare hprepare

/-! ## Without faults -/

/-- The site on a disk on which no fault will strike. -/
def faultless (w : Site) : Site :=
  { w with
    origin := w.origin.faultless
    seat_path :=
      (Disk.seat?_congr w.origin.sameDirectories_faultless _).symm.trans w.seat_path
    seat_journal :=
      (Disk.seat?_congr w.origin.sameDirectories_faultless _).symm.trans w.seat_journal }

theorem Kept.faultless (h : w.Kept stored d) :
    w.faultless.Kept stored d.faultless where
  numbered := ⟨h.numbered.node_lt, h.numbered.file_lt⟩
  directories := ⟨h.directories.home, h.directories.node⟩
  here := h.here
  sole := h.sole
  file := h.file
  elsewhere := h.elsewhere
  faults := List.suffix_refl _

/-- A session goes on as before if no fault will strike. -/
theorem Mirrors.faultless (h : w.Mirrors a s d) :
    w.faultless.Mirrors a s d.faultless :=
  ⟨⟨⟨h.serves.id, h.serves.file, h.serves.path⟩, h.kept.faultless, h.autocommit, h.working,
    h.pageLimit, h.known, h.attached, h.journal⟩, h.writing⟩

end Site

end SqlReplay.Sql
