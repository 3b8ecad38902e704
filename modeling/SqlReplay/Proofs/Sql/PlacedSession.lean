import SqlReplay.Proofs.Sql.Names
import SqlReplay.Proofs.Sql.PlacedStatements

/-!
# Preparing a statement in a longer text

A statement that stands in a longer text is prepared like the statement alone
(`prepareFirst_put`), and what it denotes runs alike (`step_shifted`).
-/

namespace SqlReplay.Sql

open Storage

/-! ## What a statement denotes -/

/-- Whether a computation comes to the same in a text with `start` more bytes before it. -/
inductive Agree (start : Nat) {α : Type} : Except Error α → Except Error α → Prop
  | ok (a : α) : Agree start (.ok a) (.ok a)
  | error (fault : Error) (h : fault ≠ .incomplete) :
    Agree start (.error fault) (.error (fault.shifted start))

variable {start : Nat} {α β : Type}

theorem Agree.map {x y : Except Error α} (h : Agree start x y) (f : α → β) :
    Agree start (x.map f) (y.map f) := by
  cases h with
  | ok a => exact .ok (f a)
  | error fault h => exact .error fault h

variable (start)

theorem agree_resolve (table : Option Table) (e : Expr) :
    Agree start (resolve table e) (resolve table (e.shifted start)) := by
  induction e with
  | literal v => exact .ok _
  | negate e ih => exact ih.map Source.negated
  | column qualifier name orText offset =>
    show Agree start (resolve table (.column qualifier name orText offset))
      (resolve table (.column qualifier name orText (start + offset)))
    unfold resolve
    dsimp only
    cases columnSource? table qualifier name with
    | some s => exact .ok s
    | none =>
      dsimp only
      split_ifs
      · exact .ok _
      · exact .ok _
      · exact .ok _
      · exact .error (.noSuchColumn _ (some offset)) nofun

theorem agree_resolveAll (table : Option Table) (es : List Expr) :
    Agree start (resolveAll table es) (resolveAll table (es.map (Expr.shifted start))) := by
  induction es with
  | nil => exact .ok []
  | cons e es ih =>
    have he := agree_resolve start table e
    rw [List.map_cons, resolveAll, resolveAll]
    generalize resolve table e = x at he
    generalize resolve table (e.shifted start) = y at he
    cases he with
    | ok s => exact ih.map (s :: ·)
    | error fault h => exact .error fault h

theorem agree_resolveRows (rows : List (List Expr)) :
    Agree start (resolveRows rows) (resolveRows (shiftedRows start rows)) := by
  induction rows with
  | nil => exact .ok []
  | cons row rows ih =>
    have hrow := agree_resolveAll start none row
    show Agree start _ (resolveRows (row.map (Expr.shifted start) :: shiftedRows start rows))
    rw [resolveRows, resolveRows]
    generalize resolveAll none row = x at hrow
    generalize resolveAll none (row.map (Expr.shifted start)) = y at hrow
    cases hrow with
    | ok sources => exact ih.map _
    | error fault h => exact .error fault h

theorem agree_checkResults (table : Option Table) (items : List ResultItem) :
    Agree start (checkResults table items)
      (checkResults table (items.map (ResultItem.shifted start))) := by
  induction items with
  | nil => exact .ok ()
  | cons item items ih =>
    cases item with
    | all =>
      show Agree start (if table.isNone then _ else _) (if table.isNone then _ else _)
      split
      · exact .error (.noTables) nofun
      · exact ih
    | expr e =>
      have he := agree_resolve start table e
      show Agree start _ (checkResults table (.expr (e.shifted start) ::
        items.map (ResultItem.shifted start)))
      rw [checkResults, checkResults]
      generalize resolve table e = x at he
      generalize resolve table (e.shifted start) = y at he
      cases he with
      | ok s => exact ih
      | error fault h => exact .error fault h

theorem agree_prepareAssignments (t : Table) (assignments : List (String × Expr)) :
    Agree start (prepareAssignments t assignments)
      (prepareAssignments t (assignments.map (Prod.map id (Expr.shifted start)))) := by
  induction assignments with
  | nil => exact .ok []
  | cons assignment assignments ih =>
    obtain ⟨name, e⟩ := assignment
    have he := agree_resolve start (some t) e
    show Agree start _ (prepareAssignments t ((name, e.shifted start) ::
      assignments.map (Prod.map id (Expr.shifted start))))
    rw [prepareAssignments, prepareAssignments]
    generalize resolve (some t) e = x at he
    generalize resolve (some t) (e.shifted start) = y at he
    cases he with
    | error fault h => exact .error fault h
    | ok source =>
      dsimp only
      cases t.columnIndex? name with
      | none => exact .error (.noSuchColumn name none) nofun
      | some i => exact ih.map _

theorem ne_incomplete_of_resolveColumns {t : Table} {shown : String} {names : List String}
    {fault : Error} (h : resolveColumns t shown names = .error fault) :
    fault ≠ .incomplete ∧ fault.shifted start = fault := by
  induction names with
  | nil => cases h
  | cons name names ih =>
    rw [resolveColumns] at h
    split at h
    · exact ih (map_eq_error_iff.1 h)
    · cases h
      exact ⟨nofun, rfl⟩

theorem agree_prepareInsert (t : Table) (shown : String) (columns : Option (List String))
    (rows : List (List Expr)) : Agree start (prepareInsert t shown columns rows)
      (prepareInsert t shown columns (shiftedRows start rows)) := by
  have hrows := agree_resolveRows start rows
  unfold prepareInsert
  generalize resolveRows rows = x at hrows
  generalize resolveRows (shiftedRows start rows) = y at hrows
  cases columns with
  | none =>
    cases hrows with
    | error fault h => exact .error fault h
    | ok values =>
      dsimp only
      split
      · exact .error (.valueCount _ _ _) nofun
      · exact .ok _
  | some names =>
    dsimp only
    cases hnames : resolveColumns t shown names with
    | error fault =>
      obtain ⟨hfault, hsame⟩ := ne_incomplete_of_resolveColumns start hnames
      have hagree : Agree start (α := Operation) (.error fault) (.error (fault.shifted start)) :=
        .error fault hfault
      rwa [hsame] at hagree
    | ok places =>
      cases hrows with
      | error fault h => exact .error fault h
      | ok values =>
        dsimp only
        split
        · exact .error (.listedCount _ _) nofun
        · exact .ok _

theorem writable_eq_error {schema : Schema} {t : TableName} {fault : Error}
    (h : schema.writable t = .error fault) : ∃ name, fault = .noSuchTable name := by
  unfold Schema.writable at h
  dsimp only at h
  split at h <;> cases h
  exact ⟨_, rfl⟩

theorem readable_eq_error {schema : Schema} {t : TableName} {fault : Error}
    (h : schema.readable t = .error fault) : ∃ name, fault = .noSuchTable name := by
  unfold Schema.readable at h
  dsimp only at h
  split at h <;> cases h
  exact ⟨_, rfl⟩

theorem nameOf_shifted (e : Expr) : nameOf (e.shifted start) = nameOf e := by
  cases e <;> rfl

/-- A statement denotes the same wherever its text stands. -/
theorem agree_prepare (schema : Schema) (statement : Statement) :
    Agree start (prepare schema statement) (prepare schema (statement.shifted start)) := by
  have hmissing : ∀ {fault : Error}, (∃ name, fault = .noSuchTable name) →
      Agree start (α := Operation) (.error fault) (.error fault) := by
    rintro _ ⟨name, rfl⟩
    exact .error (.noSuchTable name) nofun
  cases statement with
  | createTable ifAbsent table columns =>
    show Agree start (if (schema.main.table? table.name).isSome then _ else _)
      (if (schema.main.table? table.name).isSome then _ else _)
    split
    · exact .ok _
    · exact .ok _
  | dropTable ifPresent table =>
    have hsame : schema.writable (table.shifted start) = schema.writable table := rfl
    rw [Statement.shifted, prepare, prepare, hsame]
    cases htable : schema.writable table with
    | ok t => exact .ok _
    | error fault =>
      cases ifPresent with
      | true => exact .ok _
      | false => exact hmissing (writable_eq_error htable)
  | insert table columns rows =>
    have hsame : schema.writable (table.shifted start) = schema.writable table := rfl
    rw [Statement.shifted, prepare, prepare, hsame]
    cases htable : schema.writable table with
    | ok t => exact agree_prepareInsert start t table.shown columns rows
    | error fault => exact hmissing (writable_eq_error htable)
  | select items source =>
    cases source with
    | none => exact (agree_checkResults start none items).map _
    | some table =>
      have hsame : schema.readable (table.shifted start) = schema.readable table := rfl
      rw [Statement.shifted, Option.map_some, prepare, prepare, hsame]
      cases htable : schema.readable table with
      | ok t => exact (agree_checkResults start (some t) items).map _
      | error fault => exact hmissing (readable_eq_error htable)
  | update table assignments =>
    have hsame : schema.writable (table.shifted start) = schema.writable table := rfl
    rw [Statement.shifted, prepare, prepare, hsame]
    cases htable : schema.writable table with
    | ok t => exact (agree_prepareAssignments start t assignments).map _
    | error fault => exact hmissing (writable_eq_error htable)
  | delete table =>
    have hsame : schema.writable (table.shifted start) = schema.writable table := rfl
    rw [Statement.shifted, prepare, prepare, hsame]
    cases htable : schema.writable table with
    | ok t => exact .ok _
    | error fault => exact hmissing (writable_eq_error htable)
  | pragma name value =>
    obtain ⟨o, ho⟩ : ∃ o, prepare schema (.pragma name value) = .ok o := by
      by_cases hlimit : sameName name "max_page_count" = true
      · cases value with
        | none => exact ⟨_, if_pos hlimit⟩
        | some n =>
          by_cases hn : 0 < n
          · exact ⟨_, (if_pos hlimit).trans (if_pos hn)⟩
          · exact ⟨_, (if_pos hlimit).trans (if_neg hn)⟩
      · exact ⟨_, if_neg hlimit⟩
    show Agree start (prepare schema (.pragma name value)) (prepare schema (.pragma name value))
    rw [ho]
    exact .ok o
  | attach file name =>
    rw [Statement.shifted, prepare, prepare, nameOf_shifted, nameOf_shifted]
    exact .ok _
  | begin mode => exact .ok _
  | commit => exact .ok _
  | rollback => exact .ok _

variable {start}

/-! ## The first statement of a text -/

variable {p : Place} {ts : List Token}

/-- The failure to read or prepare a statement as it comes out at a place: a statement alone that
would have to go on is stuck there at what comes after it. -/
def Error.at (p : Place) : Error → Error
  | incomplete => stuckAt p.after
  | fault => fault.shifted p.start

theorem Error.at_of_ne {fault : Error} (h : fault ≠ .incomplete) :
    fault.at p = fault.shifted p.start := by
  cases fault <;> first | rfl | exact absurd rfl h

/-- What comes of the first statement of a text: what it is, and no tokens after it, if it stands
alone; at a place, what `g` makes of it and the tokens after the terminator. -/
inductive First (p : Place) {α : Type} (g : α → α) :
    Except Error (Option (α × List Token)) → Except Error (Option (α × List Token)) → Prop
  | found (a : α) : First p g (.ok (some (a, []))) (.ok (some (g a, p.after.tail)))
  | refused (fault : Error) : First p g (.error fault) (.error (fault.at p))

theorem skipTerminators_of_unended (h : Unended ts) : skipTerminators ts = ts := by
  cases ts with
  | nil => rfl
  | cons t ts => exact List.dropWhile_cons_of_neg (by rw [h t List.mem_cons_self]; exact nofun)

theorem skipTerminators_put (h : Unended ts) (hts : ts ≠ []) :
    skipTerminators (p.put ts) = p.put ts := by
  cases ts with
  | nil => exact absurd rfl hts
  | cons t ts =>
    have ht : (t.shifted p.start).isSymbol ";" = false := h t List.mem_cons_self
    exact List.dropWhile_cons_of_neg (by rw [ht]; exact nofun)

theorem readFirst_of_unended {present : String → Bool} {us : List Token}
    (h : skipTerminators ts = us) (hus : us ≠ []) : readFirst present ts =
      readStatement present us >>= fun x =>
        if atEnd x.2 then .ok (some (x.1, x.2.tail)) else .error (stuckAt x.2) := by
  unfold readFirst
  rw [h]
  cases us with
  | nil => exact absurd rfl hus
  | cons t us => rfl

theorem first_readFirst (present : String → Bool) (h : Unended ts) (hts : ts ≠ []) :
    First p (Statement.shifted p.start) (readFirst present ts)
      (readFirst present (p.put ts)) := by
  have hput : p.put ts ≠ [] := by
    cases ts with
    | nil => exact absurd rfl hts
    | cons t ts => exact List.cons_ne_nil _ _
  rw [readFirst_of_unended (skipTerminators_of_unended h) hts,
    readFirst_of_unended (skipTerminators_put h hts) hput]
  have halike := alike_readStatement (p := p) present h
  generalize readStatement present ts = x at halike
  generalize readStatement present (p.put ts) = y at halike
  cases halike with
  | short => exact .refused .incomplete
  | refused fault hfault =>
    have hrefused := First.refused (p := p) (g := Statement.shifted p.start) fault
    rwa [Error.at_of_ne hfault] at hrefused
  | @read statement rest hrest hlength =>
    show First p _ (if atEnd rest then .ok (some (statement, rest.tail)) else .error (stuckAt rest))
      (if atEnd (p.put rest) then .ok (some (statement.shifted p.start, (p.put rest).tail))
        else .error (stuckAt (p.put rest)))
    rw [atEnd_put]
    cases rest with
    | nil => exact .found statement
    | cons t rest =>
      have hgoes : atEnd (t :: rest) = false := by
        rw [atEnd, List.isEmpty_cons, Bool.false_or]
        exact hrest t List.mem_cons_self
      rw [hgoes, if_neg Bool.false_ne_true, if_neg Bool.false_ne_true, stuckAt_put,
        ← Error.at_of_ne (stuckAt_ne_incomplete t rest)]
      exact .refused _

/-! ## Tables that are there -/

/-- Whether what the first computation comes to, the second does too, or else it finds a table by
that name. -/
def Retold {α : Type} (x y : Except Error α) : Prop :=
  ∀ a, x = .ok a → y = .ok a ∨ ∃ name offset, y = .error (.tableExists name offset)

namespace Retold

variable {x y x' y' : Except Error α} {k k' : α → Except Error β} {c : Prop} [Decidable c]

theorem refl (x : Except Error α) : Retold x x := fun _ => .inl

theorem bind (hxy : Retold x y) (hk : ∀ a, Retold (k a) (k' a)) :
    Retold (x >>= k) (y >>= k') := by
  intro b h
  obtain ⟨a, hx, hb⟩ := bind_eq_ok_iff.1 h
  rcases hxy a hx with rfl | ⟨name, offset, rfl⟩
  · exact hk a b hb
  · exact .inr ⟨name, offset, rfl⟩

theorem ite (hpos : Retold x y) (hneg : Retold x' y') :
    Retold (if c then x else x') (if c then y else y') := by
  split
  · exact hpos
  · exact hneg

end Retold

variable (present present' : String → Bool)

theorem readNamed_retold (ifAbsent : Bool) (ts : List Token) :
    Retold (readNamed present ifAbsent ts) (readNamed present' ifAbsent ts) := by
  refine .bind (.refl _) fun (table, rest) => .bind (.refl _) fun (_, rest) =>
    .ite (.refl _) (.ite (.refl _) ?_)
  intro a h
  by_cases htaken : (present' table.name && !ifAbsent) = true
  · exact .inr ⟨_, _, if_pos htaken⟩
  · by_cases htaken' : (present table.name && !ifAbsent) = true
    · rw [if_pos htaken'] at h
      cases h
    · rw [if_neg htaken'] at h
      rw [if_neg htaken]
      exact .inl h

/-- A statement that is read is read whichever tables there are, unless it declares one of them. -/
theorem readStatement_retold (ts : List Token) :
    Retold (readStatement present ts) (readStatement present' ts) := by
  cases ts with
  | nil => exact .refl _
  | cons t rest =>
    rw [readStatement_cons, readStatement_cons]
    refine .ite (.bind (.refl _) fun x => ?_) (.refl _)
    rw [readCreate_eq, readCreate_eq]
    exact .bind (.refl _) fun y => readNamed_retold present present' y.1 y.2

theorem readFirst_retold (ts : List Token) :
    Retold (readFirst present ts) (readFirst present' ts) := by
  unfold readFirst
  cases skipTerminators ts with
  | nil => exact .refl _
  | cons t us => exact .bind (readStatement_retold present present' _) fun _ => .refl _

/-! ## Preparing in a session -/

/-- The operation as prepared from a text with `start` more bytes before it. -/
def Operation.shifted (start : Nat) : Operation → Operation
  | outdated writes fault => .outdated writes (fault.map (Error.shifted start))
  | operation => operation

theorem shifted_of_prepare {schema : Schema} {statement : Statement} {o : Operation}
    (h : prepare schema statement = .ok o) : o.shifted start = o := by
  cases prepared_of_prepare h <;> rfl

theorem isChange_shifted (o : Operation) : (o.shifted start).isChange = o.isChange := by
  cases o <;> rfl

namespace Session

variable {s : Session} {d : Disk}

theorem lookup_eq_error {fault : Error} (h : s.lookup d = .error fault) :
    fault = .locked ∨ fault = .notADatabase := by
  have hcommitted : ∀ {file : Id} {fault : Error}, committed d file = .error fault →
      fault = .notADatabase := by
    intro file fault h
    unfold committed databaseOf at h
    split at h
    · split at h <;> cases h
      rfl
    · cases h
  unfold lookup at h
  split at h
  · split at h <;> cases h
    exact .inl rfl
  · unfold view at h
    split at h
    · cases h
    · exact .inr (hcommitted h)

theorem declaresFirst_put (h : Unended ts) (hts : ts ≠ []) :
    declaresFirst (p.put ts) = declaresFirst ts := by
  unfold declaresFirst
  dsimp only
  rw [skipTerminators_of_unended h, skipTerminators_put h hts, startsWithKeyword_put]
  cases ts with
  | nil => exact absurd rfl hts
  | cons t ts =>
    show (_ && startsWithKeyword "TABLE" (p.put ts)) = _
    rw [startsWithKeyword_put]
    rfl

/-- Whether names cannot be looked up for one of the reasons there are. -/
def Looked (schema : Except Error Schema) : Prop :=
  ∀ fault, schema = .error fault → fault = .locked ∨ fault = .notADatabase

theorem looked_ok (schema : Schema) : Looked (.ok schema) := nofun

theorem looked_lookup : Looked ((s.lookup d).map (s.schema d)) :=
  fun _ h => lookup_eq_error (map_eq_error_iff.1 h)

theorem needsSchema_shifted (start : Nat) (statement : Statement) :
    (statement.shifted start).needsSchema = statement.needsSchema := by
  cases statement with
  | select items source => cases source <;> rfl
  | _ => rfl

/-- The tables by name that a statement may find taken as it is read. -/
def taken (schema : Except Error Schema) (name : String) : Bool :=
  match schema with
  | .ok schema => (schema.main.table? name).isSome
  | .error _ => false

/-- What a statement denotes, if names are looked up in the given databases only if need be. -/
def denote (schema : Except Error Schema) (x : Statement × List Token) :
    Except Error (Option (Operation × List Token)) :=
  (if x.1.needsSchema then schema else .ok ⟨.empty, []⟩).bind fun schema =>
    (prepare schema x.1).map fun o => some (o, x.2)

theorem prepareIn_eq (schema : Except Error Schema) (ts : List Token) : prepareIn schema ts =
    match readFirst (taken schema) ts with
    | .error fault => (.error fault, declaresFirst ts)
    | .ok none => (.ok none, false)
    | .ok (some (statement, rest)) => (denote schema (statement, rest), statement.needsSchema) :=
  rfl

theorem first_denote {schema : Except Error Schema} (hschema : Looked schema)
    (statement : Statement) : First p (Operation.shifted p.start) (denote schema (statement, []))
      (denote schema (statement.shifted p.start, p.after.tail)) := by
  unfold denote
  dsimp only
  rw [needsSchema_shifted]
  have hprepare : ∀ schema, First p (Operation.shifted p.start)
      ((prepare schema statement).map fun o => some (o, []))
      ((prepare schema (statement.shifted p.start)).map fun o => some (o, p.after.tail)) := by
    intro schema
    have hagree := agree_prepare p.start schema statement
    generalize hprepare : prepare schema statement = x at hagree
    generalize prepare schema (statement.shifted p.start) = y at hagree
    cases hagree with
    | ok o =>
      have hfound := First.found (p := p) (g := Operation.shifted p.start) o
      rwa [shifted_of_prepare hprepare] at hfound
    | error fault h =>
      rw [← Error.at_of_ne h]
      exact .refused _
  split
  · cases schema with
    | ok schema => exact hprepare schema
    | error fault =>
      rcases hschema fault rfl with rfl | rfl
      · exact .refused .locked
      · exact .refused .notADatabase
  · exact hprepare _

theorem first_prepareIn {schema : Except Error Schema} (hschema : Looked schema) (h : Unended ts)
    (hts : ts ≠ []) :
    First p (Operation.shifted p.start) (prepareIn schema ts).1 (prepareIn schema (p.put ts)).1 ∧
      (prepareIn schema (p.put ts)).2 = (prepareIn schema ts).2 := by
  have hread := first_readFirst (p := p) (taken schema) h hts
  rw [prepareIn_eq, prepareIn_eq, declaresFirst_put h hts]
  generalize readFirst (taken schema) ts = x at hread
  generalize readFirst (taken schema) (p.put ts) = y at hread
  cases hread with
  | found statement => exact ⟨first_denote hschema statement, needsSchema_shifted _ _⟩
  | refused fault => exact ⟨.refused fault, rfl⟩

theorem prepare_ne_incomplete (schema : Schema) (statement : Statement) :
    prepare schema statement ≠ .error .incomplete := by
  intro h
  have hagree := agree_prepare 0 schema statement
  rw [h] at hagree
  generalize prepare schema (statement.shifted 0) = y at hagree
  cases hagree with
  | error _ hfault => exact hfault rfl

theorem denote_ne_incomplete {schema : Except Error Schema} (hschema : Looked schema)
    (x : Statement × List Token) : denote schema x ≠ .error .incomplete := by
  unfold denote
  split
  · cases schema with
    | ok schema => exact fun h => prepare_ne_incomplete schema x.1 (map_eq_error_iff.1 h)
    | error fault =>
      intro h
      cases h
      rcases hschema _ rfl with hfault | hfault <;> cases hfault
  · exact fun h => prepare_ne_incomplete _ x.1 (map_eq_error_iff.1 h)

/-- What can be prepared with some names is not told to go on with others. -/
theorem prepareIn_ne_incomplete {schema schema' : Except Error Schema} (hschema : Looked schema')
    {x : Operation × List Token} (h : (prepareIn schema ts).1 = .ok (some x)) :
    (prepareIn schema' ts).1 ≠ .error .incomplete := by
  intro hincomplete
  have hretold := readFirst_retold (taken schema) (taken schema') ts
  rw [prepareIn_eq] at h hincomplete
  cases hread : readFirst (taken schema) ts with
  | error fault =>
    rw [hread] at h
    cases h
  | ok found =>
    rcases hretold found hread with hread' | ⟨name, offset, hread'⟩
    · rw [hread'] at hincomplete
      rcases found with _ | ⟨statement, rest⟩
      · cases hincomplete
      · exact denote_ne_incomplete hschema (statement, rest) hincomplete
    · rw [hread'] at hincomplete
      cases hincomplete

theorem prepareAnew_eq (s : Session) (d : Disk) (ts : List Token) : s.prepareAnew d ts =
    ((prepareIn ((s.lookup d).map (s.schema d)) ts).1,
      if (prepareIn ((s.lookup d).map (s.schema d)) ts).2 then s.knowing d else s) := by
  unfold prepareAnew
  generalize prepareIn ((s.lookup d).map (s.schema d)) ts = x
  obtain ⟨x, _ | _⟩ := x <;> rfl

theorem first_prepareAnew (h : Unended ts) (hts : ts ≠ []) :
    First p (Operation.shifted p.start) (s.prepareAnew d ts).1 (s.prepareAnew d (p.put ts)).1 ∧
      (s.prepareAnew d (p.put ts)).2 = (s.prepareAnew d ts).2 := by
  obtain ⟨hfirst, hneeded⟩ := first_prepareIn (p := p) (looked_lookup (s := s) (d := d)) h hts
  rw [prepareAnew_eq, prepareAnew_eq, hneeded]
  exact ⟨hfirst, rfl⟩

/-- Where a statement alone would have to go on, it is stuck at a token, or there is none. -/
theorem at_incomplete (p : Place) : Error.incomplete.at p = .incomplete ∨
    ∃ token offset, Error.incomplete.at p = .unrecognized token offset ∨
      Error.incomplete.at p = .syntaxNear token offset := by
  show stuckAt p.after = .incomplete ∨ ∃ token offset,
    stuckAt p.after = .unrecognized token offset ∨ stuckAt p.after = .syntaxNear token offset
  cases p.after with
  | nil => exact .inl rfl
  | cons t rest =>
    by_cases hillegal : t.kind = .illegal
    · exact .inr ⟨_, _, .inl (if_pos hillegal)⟩
    · exact .inr ⟨_, _, .inr (if_neg hillegal)⟩

theorem isAboutNames_at (fault : Error) : (fault.at p).isAboutNames = fault.isAboutNames := by
  cases fault with
  | incomplete => rcases at_incomplete p with h | ⟨_, _, h | h⟩ <;> rw [h] <;> rfl
  | _ => rfl

/-- A statement is prepared at a place as it is prepared alone. -/
theorem first_prepareFirst (h : Unended ts) (hts : ts ≠ []) :
    First p (Operation.shifted p.start) (s.prepareFirst d ts).1
        (s.prepareFirst d (p.put ts)).1 ∧
      (s.prepareFirst d (p.put ts)).2 = (s.prepareFirst d ts).2 := by
  obtain ⟨hanew, hsame⟩ := first_prepareAnew (p := p) (s := s) (d := d) h hts
  unfold prepareFirst
  cases (if s.working.isNone then s.known else none) with
  | none => exact ⟨hanew, hsame⟩
  | some known =>
    dsimp only
    obtain ⟨hfirst, -⟩ := first_prepareIn (p := p) (looked_ok (s.schema d known)) h hts
    generalize hx : (prepareIn (.ok (s.schema d known)) ts).1 = x at hfirst
    generalize (prepareIn (.ok (s.schema d known)) (p.put ts)).1 = y at hfirst
    cases hfirst with
    | refused fault =>
      dsimp only
      rw [isAboutNames_at]
      split
      · exact first_prepareAnew h hts
      · exact ⟨.refused fault, rfl⟩
    | found o =>
      -- What is kept for a failure later on is told with its place, but never that more was needed:
      -- the statement has been read once.
      have hgoes : (s.prepareAnew d ts).1 ≠ .error .incomplete := by
        rw [prepareAnew_eq]
        exact prepareIn_ne_incomplete looked_lookup hx
      dsimp only
      generalize (s.prepareAnew d ts).1 = x at hanew hgoes
      generalize (s.prepareAnew d (p.put ts)).1 = y at hanew
      rw [isChange_shifted]
      cases hanew with
      | refused fault =>
        rw [Error.at_of_ne fun hfault => hgoes (congrArg Except.error hfault)]
        exact ⟨.found (Operation.outdated o.isChange (some fault)), rfl⟩
      | found current =>
        dsimp only
        rw [Option.any_some, Option.any_some, isChange_shifted]
        cases o.isChange with
        | true =>
          cases current.isChange with
          | true => exact ⟨.found current, rfl⟩
          | false => exact ⟨.found (Operation.outdated true none), rfl⟩
        | false => cases current.isChange <;> exact ⟨.found current, rfl⟩

/-! ## Running -/

theorem message_shifted (fault : Error) : (fault.shifted start).message = fault.message := by
  cases fault <;> rfl

/-- What runs of an operation come to, as prepared from a text alone and from one with `start` more
bytes before it: the same but for the places that a failure tells. -/
inductive Ran (start : Nat) : Except Error Unit × Session × Disk →
    Except Error Unit × Session × Disk → Prop
  | same (x : Except Error Unit × Session × Disk) : Ran start x x
  | failed (fault : Error) (s : Session) (d : Disk) :
    Ran start (.error fault, s, d) (.error (fault.shifted start), s, d)

theorem ran_giveUp (s : Session) (d : Disk) (fault : Error) :
    Ran start (s.giveUp d fault) (s.giveUp d (fault.shifted start)) := by
  unfold giveUp
  split <;> exact .failed fault _ _

theorem ran_revisit (s : Session) (d : Disk) (writes : Bool) (fault : Error) :
    Ran start (s.revisit d writes (some fault))
      (s.revisit d writes (some (fault.shifted start))) := by
  unfold revisit
  generalize (if writes then s.beginWrite d else (.ok (), s, d)) = begun
  obtain ⟨_ | _, s, d⟩ := begun
  · exact .same _
  · dsimp only
    generalize s.read d = looked
    obtain ⟨_ | _, s, d⟩ := looked
    · exact .same _
    · exact ran_giveUp s d fault

/-- An operation runs alike from wherever its text stands. -/
theorem step_shifted (s : Session) (d : Disk) (o : Operation) :
    Ran start (s.step d o) (s.step d (o.shifted start)) := by
  cases o with
  | outdated writes fault =>
    cases fault with
    | none => exact .same _
    | some fault => exact ran_revisit s d writes fault
  | _ => exact .same _

/-! ## Tokens that come to the same statement -/

/-- Terminators before a statement make no difference. -/
theorem prepareFirst_congr {us : List Token} (h : skipTerminators ts = skipTerminators us) :
    s.prepareFirst d ts = s.prepareFirst d us := by
  have hread : ∀ present, readFirst present ts = readFirst present us := by
    intro present
    unfold readFirst
    rw [h]
  have hprepare : ∀ schema, prepareIn schema ts = prepareIn schema us := by
    intro schema
    rw [prepareIn_eq, prepareIn_eq, hread]
    unfold declaresFirst
    rw [h]
  have hanew : ∀ s : Session, s.prepareAnew d ts = s.prepareAnew d us := by
    intro s
    rw [prepareAnew_eq, prepareAnew_eq, hprepare]
  unfold prepareFirst
  simp only [hprepare, hanew]

/-! ## What preparing leaves alone -/

/-- Whether a session is as before but for what it knows. -/
def Relearned (s s' : Session) : Prop := s' = { s with known := s'.known }

theorem Relearned.trans {s s' s'' : Session} (h : s.Relearned s') (h' : s'.Relearned s'') :
    s.Relearned s'' := by
  unfold Relearned at h h' ⊢
  rw [h', h]

theorem relearned_knowing (s : Session) (d : Disk) : s.Relearned (s.knowing d) := by
  unfold knowing
  split <;> rfl

theorem relearned_doubting (s : Session) (d : Disk) : s.Relearned (s.doubting d) := by
  unfold doubting
  split
  · split <;> rfl
  · rfl

theorem relearned_prepareAnew (s : Session) (d : Disk) (ts : List Token) :
    s.Relearned (s.prepareAnew d ts).2 := by
  rw [prepareAnew_eq]
  dsimp only
  split
  · exact s.relearned_knowing d
  · rfl

/-- All that preparing a statement may change is what the session knows. -/
theorem relearned_prepareFirst (s : Session) (d : Disk) (ts : List Token) :
    s.Relearned (s.prepareFirst d ts).2 := by
  unfold prepareFirst
  split
  · exact s.relearned_prepareAnew d ts
  · split
    · split
      · exact (s.relearned_doubting d).trans (relearned_prepareAnew _ d ts)
      · rfl
    · rfl
    · split
      · rfl
      · split
        · rfl
        · exact s.relearned_knowing d
        · rfl

end Session

end SqlReplay.Sql
