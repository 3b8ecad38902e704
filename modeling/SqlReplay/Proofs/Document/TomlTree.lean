import SqlReplay.Document.Toml.Tree

/-!
# Growing documents

A new key is put at the end of its table, and a new table at the end of the document (`assign_new`,
`openTable_new`).  A document consists of the values that were assigned in it: all its integers have
64 bits with sign if theirs have (`SignedEntries.document`).
-/

namespace SqlReplay

/-- Whether all integers of a data tree have 64 bits with sign. -/
inductive Document.Signed : Document → Prop
  | null : Signed .null
  | flag (value : Bool) : Signed (.flag value)
  | integer {n : Int} (h : -(UInt64.size / 2 : Nat) ≤ n ∧ n < (UInt64.size / 2 : Nat)) :
      Signed (.integer n)
  | real (literal : String) : Signed (.real literal)
  | text (value : String) : Signed (.text value)
  | list {items : List Document} (h : ∀ d ∈ items, Signed d) : Signed (.list items)
  | record {fields : List (String × Document)} (h : ∀ f ∈ fields, Signed f.2) :
      Signed (.record fields)

namespace Toml

theorem entriesDocument_eq_map (es : Entries) :
    entriesDocument es = es.map fun e => (e.1, e.2.document) := by
  induction es with
  | nil => rfl
  | cons e es ih =>
    rw [entriesDocument, ih]
    rfl

theorem itemsDocument_eq_map (items : List Entries) :
    itemsDocument items = items.map fun es => .record (entriesDocument es) := by
  induction items with
  | nil => rfl
  | cons es items ih =>
    rw [itemsDocument, ih]
    rfl

/-! ## Tables -/

section Tables

variable {key : String} {es : Entries} {f : Option Tree → Option Tree} {t : Tree}

theorem alter_of_notMem (h : key ∉ es.map Prod.fst) :
    alter key f es = (f none).map fun t => es ++ [(key, t)] := by
  induction es with
  | nil => rfl
  | cons e es ih =>
    rw [List.map_cons, List.mem_cons, not_or] at h
    rw [alter, if_neg (Ne.symm h.1), ih h.2, Option.map_map]
    rfl

theorem alter_concat (h : key ∉ es.map Prod.fst) :
    alter key f (es ++ [(key, t)]) = (f (some t)).map fun t => es ++ [(key, t)] := by
  induction es with
  | nil => exact if_pos rfl
  | cons e es ih =>
    rw [List.map_cons, List.mem_cons, not_or] at h
    rw [List.cons_append, alter, if_neg (Ne.symm h.1), ih h.2, Option.map_map]
    rfl

/-- The entries of a table whose fields have values. -/
def fieldEntries (fields : List (String × Document)) : Entries :=
  fields.map fun f => (f.1, .value f.2)

theorem map_fst_fieldEntries (fields : List (String × Document)) :
    (fieldEntries fields).map Prod.fst = fields.map Prod.fst := by
  rw [fieldEntries, List.map_map]
  rfl

theorem entriesDocument_fieldEntries (fields : List (String × Document)) :
    entriesDocument (fieldEntries fields) = fields := by
  rw [entriesDocument_eq_map, fieldEntries, List.map_map]
  exact List.map_id fields

/-- The entries before a table that is open, and that table with the fields it has so far. -/
def opened (es : Entries) (name : String) (fields : List (String × Document)) : Entries :=
  es ++ [(name, .table .header (fieldEntries fields))]

theorem openTable_new {name : String} (h : name ∉ es.map Prod.fst) :
    openTable [name] es = some (opened es name []) := by
  show descend (alter name _) [] es = _
  rw [descend, alter_of_notMem h]
  rfl

/-- A new key of the table that is open gets its value at the end. -/
theorem assign_new {name key : String} (hname : name ∉ es.map Prod.fst)
    {fields : List (String × Document)} (hkey : key ∉ fields.map Prod.fst) (d : Document) :
    descend (assign d [key]) [name] (opened es name fields) =
      some (opened es name (fields ++ [(key, d)])) := by
  have hfields : key ∉ (fieldEntries fields).map Prod.fst := by rwa [map_fst_fieldEntries]
  have hassign : assign d [key] (fieldEntries fields) =
      some (fieldEntries (fields ++ [(key, d)])) := by
    rw [assign, alter_of_notMem hfields, fieldEntries, fieldEntries, List.map_append]
    rfl
  rw [opened, descend, alter_concat hname]
  simp only [descend, hassign]
  rfl

end Tables

/-! ## Integers -/

/-- Whether all integers of a part of a growing document have 64 bits with sign. -/
inductive Tree.Signed : Tree → Prop
  | value {d : Document} (h : d.Signed) : Signed (.value d)
  | table {origin : Origin} {es : Entries} (h : ∀ e ∈ es, Signed e.2) : Signed (.table origin es)
  | tables {items : List Entries} (h : ∀ es ∈ items, ∀ e ∈ es, Signed e.2) : Signed (.tables items)

/-- Whether all integers of entries have 64 bits with sign. -/
def SignedEntries (es : Entries) : Prop := ∀ e ∈ es, e.2.Signed

/-- Whether a change of entries lets no other integers in. -/
def KeepsSigned (f : Entries → Option Entries) : Prop :=
  ∀ ⦃es es' : Entries⦄, SignedEntries es → f es = some es' → SignedEntries es'

variable {d : Document} {es : Entries}

theorem signedEntries_nil : SignedEntries [] := fun _ he => absurd he List.not_mem_nil

theorem signedEntries_cons {e : String × Tree} :
    SignedEntries (e :: es) ↔ e.2.Signed ∧ SignedEntries es :=
  List.forall_mem_cons

theorem keepsSigned_alter (key : String) {f : Option Tree → Option Tree}
    (hf : ∀ old new, (∀ t ∈ old, t.Signed) → f old = some new → new.Signed) :
    KeepsSigned (alter key f) := by
  intro es es' hes h
  induction es generalizing es' with
  | nil =>
    obtain ⟨t, ht, rfl⟩ := Option.map_eq_some_iff.1 h
    exact signedEntries_cons.2 ⟨hf none t nofun ht, signedEntries_nil⟩
  | cons e rest ih =>
    obtain ⟨k, t⟩ := e
    obtain ⟨ht, hrest⟩ := signedEntries_cons.1 hes
    rw [alter] at h
    split at h
    · obtain ⟨t', ht', rfl⟩ := Option.map_eq_some_iff.1 h
      refine signedEntries_cons.2 ⟨hf (some t) t' ?_ ht', hrest⟩
      rintro _ ⟨⟩
      exact ht
    · obtain ⟨rest', hrest', rfl⟩ := Option.map_eq_some_iff.1 h
      exact signedEntries_cons.2 ⟨ht, ih hrest hrest'⟩

theorem KeepsSigned.alterLast {f : Entries → Option Entries} (hf : KeepsSigned f)
    {items items' : List Entries} (hitems : ∀ es ∈ items, SignedEntries es)
    (h : alterLast f items = some items') : ∀ es ∈ items', SignedEntries es := by
  induction items generalizing items' with
  | nil => cases h
  | cons es more ih =>
    obtain ⟨hes, hmore⟩ := List.forall_mem_cons.1 hitems
    cases more with
    | nil =>
      obtain ⟨es', hes', rfl⟩ := Option.map_eq_some_iff.1 h
      exact List.forall_mem_singleton.2 (hf hes hes')
    | cons next more =>
      obtain ⟨more', hmore', rfl⟩ := Option.map_eq_some_iff.1 h
      exact List.forall_mem_cons.2 ⟨hes, ih hmore hmore'⟩

/-- A change within a table changes nothing else of it. -/
theorem KeepsSigned.table {f : Entries → Option Entries} (hf : KeepsSigned f) {origin : Origin}
    {t : Tree} (hes : SignedEntries es) (h : (f es).map (.table origin) = some t) : t.Signed := by
  obtain ⟨es', hes', rfl⟩ := Option.map_eq_some_iff.1 h
  exact .table (hf hes hes')

theorem KeepsSigned.tables {f : Entries → Option Entries} (hf : KeepsSigned f) {t : Tree}
    {items : List Entries} (hitems : ∀ es ∈ items, SignedEntries es)
    (h : (Toml.alterLast f items).map .tables = some t) : t.Signed := by
  obtain ⟨items', hitems', rfl⟩ := Option.map_eq_some_iff.1 h
  exact .tables (hf.alterLast hitems hitems')

theorem KeepsSigned.descend {f : Entries → Option Entries} (hf : KeepsSigned f)
    (keys : List String) : KeepsSigned (descend f keys) := by
  induction keys with
  | nil => exact hf
  | cons key keys ih =>
    intro es es' hes h
    rw [Toml.descend] at h
    refine keepsSigned_alter key (fun old new hold hnew => ?_) hes h
    split at hnew
    · exact ih.table signedEntries_nil hnew
    · cases hold _ rfl with
      | table hinner => exact ih.table hinner hnew
    · cases hold _ rfl with
      | tables hitems => exact ih.tables hitems hnew
    · cases hnew

theorem keepsSigned_openTable (keys : List String) : KeepsSigned (openTable keys) := by
  intro es es' hes h
  unfold openTable at h
  split at h
  · cases h
  · next last _ =>
    refine KeepsSigned.descend (keepsSigned_alter last fun old new hold hnew => ?_) _ hes h
    split at hnew
    · cases hnew
      exact .table signedEntries_nil
    · cases hnew
      cases hold _ rfl with
      | table hinner => exact .table hinner
    · cases hnew

theorem keepsSigned_openItem (keys : List String) : KeepsSigned (openItem keys) := by
  intro es es' hes h
  unfold openItem at h
  split at h
  · cases h
  · next last _ =>
    refine KeepsSigned.descend (keepsSigned_alter last fun old new hold hnew => ?_) _ hes h
    split at hnew
    · cases hnew
      exact .tables (List.forall_mem_singleton.2 signedEntries_nil)
    · cases hnew
      cases hold _ rfl with
      | tables hitems =>
        refine .tables fun es hes => ?_
        rcases List.mem_append.1 hes with hes | hes
        · exact hitems es hes
        · obtain rfl := List.mem_singleton.1 hes
          exact signedEntries_nil
    · cases hnew

theorem keepsSigned_assign (hd : d.Signed) (keys : List String) :
    KeepsSigned (assign d keys) := by
  induction keys with
  | nil => exact nofun
  | cons key keys ih =>
    intro es es' hes h
    cases keys with
    | nil =>
      refine keepsSigned_alter key (fun old new _ hnew => ?_) hes h
      split at hnew
      · cases hnew
        exact .value hd
      · cases hnew
    | cons next keys =>
      refine keepsSigned_alter key (fun old new hold hnew => ?_) hes h
      split at hnew
      · exact ih.table signedEntries_nil hnew
      · cases hold _ rfl with
        | table hinner => exact ih.table hinner hnew
      · split at hnew
        · cases hnew
        · cases hold _ rfl with
          | table hinner => exact ih.table hinner hnew
      · split at hnew
        · cases hnew
        · cases hold _ rfl with
          | tables hitems => exact ih.tables hitems hnew
      · cases hnew

theorem signed_record (h : ∀ e ∈ es, e.2.document.Signed) :
    (Document.record (entriesDocument es)).Signed := by
  rw [entriesDocument_eq_map]
  refine .record fun f hf => ?_
  obtain ⟨e, he, rfl⟩ := List.mem_map.1 hf
  exact h e he

theorem Tree.Signed.document {t : Tree} (h : t.Signed) : t.document.Signed := by
  induction h with
  | value hd => exact hd
  | table _ ih => exact signed_record ih
  | tables _ ih =>
    rw [Tree.document, itemsDocument_eq_map]
    refine .list fun d hd => ?_
    obtain ⟨es, hes, rfl⟩ := List.mem_map.1 hd
    exact signed_record (ih es hes)

theorem SignedEntries.document (h : SignedEntries es) :
    (Document.record (entriesDocument es)).Signed :=
  signed_record fun e he => (h e he).document

end Toml

end SqlReplay
