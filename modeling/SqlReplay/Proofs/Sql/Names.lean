import SqlReplay.Sql.Session

/-!
# Names

Statements are prepared by looking up names, so two databases in which every name denotes the same
table are as good as one another (`prepareIn_congr`).  A change that writes nothing leaves every
name as it was (`sameNames_of_not_writes`).
-/

namespace SqlReplay.Sql

/-- Whether every name denotes the same table in two databases. -/
def SameNames (a b : Database) : Prop := ∀ name, a.table? name = b.table? name

theorem SameNames.refl (db : Database) : SameNames db db := fun _ => rfl

/-! ## Preparing -/

section Prepare

variable {a b : Schema}

theorem writable_congr (h : SameNames a.main b.main) (t : TableName) :
    a.writable t = b.writable t := by
  simp only [Schema.writable, h t.name]

theorem tableIn?_congr {a b : Database} (h : SameNames a b) (name : String) :
    Schema.tableIn? a name = Schema.tableIn? b name := by
  simp only [Schema.tableIn?, h name]

theorem readable_congr (h : SameNames a.main b.main) (h' : a.attached = b.attached)
    (t : TableName) : a.readable t = b.readable t := by
  simp only [Schema.readable, h', List.findSome?_cons, tableIn?_congr h]

theorem prepare_congr (h : SameNames a.main b.main) (h' : a.attached = b.attached)
    (statement : Statement) : prepare a statement = prepare b statement := by
  cases statement with
  | createTable ifAbsent table columns => simp only [prepare, h table.name]
  | select items source => simp only [prepare, readable_congr h h']
  | dropTable ifPresent table => simp only [prepare, writable_congr h]
  | insert table columns rows => simp only [prepare, writable_congr h]
  | update table assignments => simp only [prepare, writable_congr h]
  | delete table => simp only [prepare, writable_congr h]
  | begin mode => rfl
  | commit => rfl
  | rollback => rfl
  | pragma name value => rfl
  | attach file name => rfl

/-- What a statement is prepared to depends on nothing but what names denote. -/
theorem prepareIn_congr (h : SameNames a.main b.main) (h' : a.attached = b.attached)
    (ts : List Token) : Session.prepareIn (.ok a) ts = Session.prepareIn (.ok b) ts := by
  have hpresent : (fun name => (a.main.table? name).isSome) =
      fun name => (b.main.table? name).isSome := funext fun name => by rw [h name]
  simp only [Session.prepareIn, hpresent]
  split
  · rfl
  · rfl
  · rename_i statement rest _
    cases statement.needsSchema with
    | true => simp only [if_true, Except.bind, prepare_congr h h']
    | false => rfl

end Prepare

/-! ## What statements are prepared to -/

theorem prepareInsert_isChange {t : Table} {shown : String} {columns : Option (List String)}
    {rows : List (List Expr)} {operation : Operation}
    (h : prepareInsert t shown columns rows = .ok operation) : operation.isChange = true := by
  cases columns with
  | none =>
    simp only [prepareInsert] at h
    repeat' split at h
    all_goals cases h
    rfl
  | some names =>
    simp only [prepareInsert] at h
    repeat' split at h
    all_goals cases h
    rfl

/-- The operations that a statement can be prepared to. -/
inductive Prepared : Statement → Operation → Prop
  | query (statement : Statement) (reads : Bool) : Prepared statement (.query reads)
  | change (statement : Statement) (c : Change) : Prepared statement (.change c)
  | begin (mode : BeginMode) : Prepared (.begin mode) (.begin mode)
  | commit : Prepared .commit .commit
  | rollback : Prepared .rollback .rollback
  | limitPages (name : String) (value : Option Int) (limit : Nat) :
    Prepared (.pragma name value) (.limitPages limit)
  | attach (file name : Expr) : Prepared (.attach file name) (.attach (nameOf file) (nameOf name))

theorem prepared_of_isChange {operation : Operation} (h : operation.isChange = true)
    (statement : Statement) : Prepared statement operation := by
  cases operation with
  | change c => exact .change statement c
  | begin mode => cases h
  | commit => cases h
  | rollback => cases h
  | limitPages limit => cases h
  | attach file name => cases h
  | query reads => cases h
  | outdated writes fault => cases h

theorem prepared_of_prepare {schema : Schema} {statement : Statement} {operation : Operation}
    (h : prepare schema statement = .ok operation) : Prepared statement operation := by
  cases statement with
  | createTable ifAbsent table columns =>
    simp only [prepare] at h
    split at h
    · cases h
      exact .query _ _
    · cases h
      exact .change _ _
  | dropTable ifPresent table =>
    simp only [prepare] at h
    split at h
    · cases h
      exact .change _ _
    · split at h
      · cases h
        exact .query _ _
      · cases h
  | insert table columns rows =>
    simp only [prepare] at h
    split at h
    · cases h
    · exact prepared_of_isChange (prepareInsert_isChange h) _
  | select items source =>
    have hchecked : ∀ {checked : Except Error Unit} {reads : Bool},
        checked.map (fun _ => Operation.query reads) = .ok operation →
        Prepared (.select items source) operation := by
      intro checked reads hmap
      cases checked with
      | error fault => cases hmap
      | ok _ =>
        cases hmap
        exact .query _ _
    simp only [prepare] at h
    split at h
    · exact hchecked h
    · split at h
      · cases h
      · exact hchecked h
  | update table assignments =>
    simp only [prepare] at h
    split at h
    · cases h
    · rename_i t _
      cases hr : prepareAssignments t assignments with
      | error fault =>
        rw [hr] at h
        cases h
      | ok assignments' =>
        rw [hr] at h
        cases h
        exact .change _ _
  | delete table =>
    simp only [prepare] at h
    split at h
    · cases h
    · cases h
      exact .change _ _
  | begin mode =>
    cases h
    exact .begin mode
  | commit =>
    cases h
    exact .commit
  | rollback =>
    cases h
    exact .rollback
  | pragma name value =>
    simp only [prepare] at h
    repeat' split at h
    all_goals
      cases h
      first | exact .query _ _ | exact .limitPages _ _ _
  | attach file name =>
    cases h
    exact .attach file name

/-- What is prepared among tokens comes from the first statement among them. -/
theorem prepareIn_eq_ok {schema : Except Error Schema} {ts : List Token} {operation : Operation}
    {rest : List Token} (h : (Session.prepareIn schema ts).1 = .ok (some (operation, rest))) :
    ∃ present statement schema', readFirst present ts = .ok (some (statement, rest)) ∧
      prepare schema' statement = .ok operation := by
  simp only [Session.prepareIn] at h
  split at h
  · cases h
  · cases h
  · rename_i statement rest' hread
    rcases hneeded : (if statement.needsSchema then schema else .ok ⟨.empty, []⟩) with
      fault | schema'
    · simp only [hneeded, Except.bind] at h
      cases h
    · simp only [hneeded, Except.bind] at h
      rcases hprepare : prepare schema' statement with fault | prepared
      · simp only [hprepare, Except.map] at h
        cases h
      · simp only [hprepare, Except.map] at h
        cases h
        exact ⟨_, statement, schema', hread, hprepare⟩

/-! ## Changes that write nothing -/

theorem sameName_iff {a b : String} :
    sameName a b = true ↔ a.toList.map Char.toLower = b.toList.map Char.toLower :=
  decide_eq_true_iff

theorem sameName_trans {a b c : String} (h : sameName a b = true) (h' : sameName b c = true) :
    sameName a c = true :=
  sameName_iff.2 ((sameName_iff.1 h).trans (sameName_iff.1 h'))

theorem sameName_symm {a b : String} (h : sameName a b = true) : sameName b a = true :=
  sameName_iff.2 (sameName_iff.1 h).symm

theorem sameName_table? {db : Database} {name : String} {t : Table}
    (h : db.table? name = some t) : sameName t.name name = true :=
  List.find?_some (p := fun t : Table => sameName t.name name) h

theorem sameName_left {a b : String} (h : sameName a b = true) (c : String) :
    sameName a c = sameName b c := by
  unfold sameName
  rw [sameName_iff.1 h]

theorem table?_eq_of_sameName (db : Database) {a b : String} (h : sameName a b = true) :
    db.table? a = db.table? b := by
  have heq : (fun t : Table => sameName t.name a) = fun t => sameName t.name b :=
    funext fun t => by unfold sameName; rw [sameName_iff.1 h]
  unfold Database.table?
  rw [heq]

/-- Putting the table that a name denotes in its own place changes no name. -/
theorem sameNames_update {db : Database} {name : String} {t : Table}
    (h : db.table? name = some t) : SameNames (db.update t) db := by
  intro other
  have hfind : (fun u : Table => sameName (if sameName u.name t.name then t else u).name other) =
      fun u => sameName u.name other := by
    funext u
    by_cases hu : sameName u.name t.name = true
    · rw [if_pos hu, sameName_left hu]
    · rw [if_neg hu]
  have hmap : (db.update t).table? other =
      (db.table? other).map fun u => if sameName u.name t.name then t else u := by
    unfold Database.table? Database.update
    rw [List.find?_map]
    exact congrArg (fun p => Option.map _ (List.find? p db.tables)) hfind
  rw [hmap]
  cases hu : db.table? other with
  | none => rfl
  | some u =>
    by_cases hut : sameName u.name t.name = true
    · have hname : sameName other name = true :=
        sameName_trans (sameName_symm (sameName_table? hu))
          (sameName_trans hut (sameName_table? h))
      rw [table?_eq_of_sameName db hname, h] at hu
      cases hu
      rw [Option.map_some, if_pos hut]
    · rw [Option.map_some, if_neg hut]

theorem insertRows_take_one {rows : List (List Value)} {t changed : Table} (hrows : rows ≠ [])
    (h : insertRows rows t = .ok changed) : (insertRows (rows.take 1) t).isOk = true := by
  cases rows with
  | nil => exact absurd rfl hrows
  | cons values rest =>
    simp only [insertRows, List.take_succ_cons, List.take_zero] at h ⊢
    cases hsettle : settle t t.rows t.nextNumber values with
    | error fault => simp [hsettle] at h
    | ok _ => rfl

theorem updateRows_take_one {assignments : List (Nat × Source)} {rows : List Row}
    {t changed : Table} (hrows : rows ≠ []) (h : updateRows assignments rows t = .ok changed) :
    (updateRows assignments (rows.take 1) t).isOk = true := by
  cases rows with
  | nil => exact absurd rfl hrows
  | cons row rest =>
    simp only [updateRows, List.take_succ_cons, List.take_zero] at h ⊢
    split at h
    · cases h
    · rfl

/-- A change that succeeds without writing leaves every name as it was. -/
theorem sameNames_of_not_writes {db changed : Database} {c : Change}
    (hwrites : c.writes db = false) (hrun : c.run db = .ok changed) : SameNames changed db := by
  cases c with
  | createTable t => cases hwrites
  | dropTable name => cases hwrites
  | clear name => cases hwrites
  | insert name rows =>
    simp only [Change.writes, Change.run] at hwrites hrun
    cases htable : db.table? name with
    | none => simp [htable] at hrun
    | some t =>
      simp only [htable, Bool.and_eq_false_iff, Bool.not_eq_false'] at hwrites hrun
      cases hrows : insertRows rows t with
      | error fault => simp [hrows, Except.map] at hrun
      | ok t' =>
        have hempty : rows = [] := by
          cases rows with
          | nil => rfl
          | cons values rest =>
            rw [insertRows_take_one (List.cons_ne_nil values rest) hrows] at hwrites
            simp at hwrites
        rw [hempty] at hrows
        cases hrows
        rw [hempty] at hrun
        cases hrun
        exact sameNames_update htable
  | update name assignments =>
    simp only [Change.writes, Change.run] at hwrites hrun
    cases htable : db.table? name with
    | none => simp [htable] at hrun
    | some t =>
      simp only [htable] at hwrites hrun
      cases hrows : updateRows assignments t.rows t with
      | error fault => simp [hrows, Except.map] at hrun
      | ok t' =>
        simp only [hrows, Except.map, Except.ok.injEq] at hrun
        have hsame : t' = t := by
          by_cases hempty : t.rows = []
          · rw [hempty] at hrows
            exact (Except.ok.inj hrows).symm
          · have hfirst := updateRows_take_one hempty hrows
            simp only [hfirst, hrows, Except.toOption, Bool.and_true, Bool.and_eq_false_iff,
              Bool.not_eq_false', List.isEmpty_iff, hempty, Bool.or_eq_false_iff, false_or,
              decide_eq_false_iff_not, Decidable.not_not, Option.some.injEq] at hwrites
            exact hwrites.2
        rw [← hrun, hsame]
        exact sameNames_update htable

end SqlReplay.Sql
