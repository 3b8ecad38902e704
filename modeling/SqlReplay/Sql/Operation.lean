import SqlReplay.Sql.Error
import SqlReplay.Sql.Statement

/-!
# What a statement does

A statement is first prepared: its tables and columns are looked up and its expressions resolved,
which may fail without anything having happened. The operation it denotes then runs on a database
value and gives the changed database, or fails, in which case the database stays as it was.
-/

namespace SqlReplay.Sql

/-- Where a value comes from, for a given row. -/
inductive Source
  | value (v : Value)
  | column (index : Nat)
  | rowNumber
  | negated (s : Source)
deriving DecidableEq, Inhabited

/-- The value for a row. -/
def Source.eval (row : Row) : Source → Value
  | value v => v
  | column i => row.values.getD i .null
  | rowNumber => .integer row.number
  | negated s => (s.eval row).negate

/-- A change of a database. -/
inductive Change
  | createTable (table : Table)
  | dropTable (name : String)
  | insert (table : String) (rows : List (List Value))
  | update (table : String) (assignments : List (Nat × Source))
  | clear (table : String)
deriving Inhabited

/-- What a prepared statement does. -/
inductive Operation
  | begin (mode : BeginMode)
  | commit
  | rollback
  | limitPages (limit : Nat)
  | attach (file name : String)
  /-- Nothing but looking into the database file, if `reads`. -/
  | query (reads : Bool)
  | change (c : Change)
  /-- Nothing, for the file does not have the names as they were known: a change, if `writes`, that
  is needless now, or a statement that is refused. -/
  | outdated (writes : Bool) (fault : Option Error)
deriving Inhabited

/-- Whether the operation changes the database. -/
def Operation.isChange : Operation → Bool
  | change _ => true
  | _ => false

/-! ## Preparing -/

/-- The databases in which names are looked up: the main one, and those attached by name. -/
structure Schema where
  main : Database
  attached : List (String × Database)

namespace Schema

/-- The schema table that every database has. -/
def catalogTable (name : String) : Table :=
  ⟨name, ["type", "name", "tbl_name", "rootpage", "sql"].map fun c =>
    ⟨c, .blob, false, false, false⟩, []⟩

/-- The table of the given name in one database, the schema table included. -/
def tableIn? (db : Database) (name : String) : Option Table :=
  (db.table? name).or <|
    if sameName name "sqlite_master" || sameName name "sqlite_schema" then some (catalogTable name)
    else none

/-- The table a query reads. -/
def readable (schema : Schema) (t : TableName) : Except Error Table :=
  let found := match t.schema with
    | none => (schema.main :: schema.attached.map Prod.snd).findSome? (tableIn? · t.name)
    | some s =>
      if sameName s "main" then tableIn? schema.main t.name
      else (schema.attached.find? fun a => sameName a.1 s).bind (tableIn? ·.2 t.name)
  match found with
  | some table => .ok table
  | none => .error (.noSuchTable t.shown)

/-- The table a change is made to. -/
def writable (schema : Schema) (t : TableName) : Except Error Table :=
  let isMain := match t.schema with
    | none => true
    | some s => sameName s "main"
  match if isMain then schema.main.table? t.name else none with
  | some table => .ok table
  | none => .error (.noSuchTable t.shown)

end Schema

/-- Whether a name always denotes the row number. -/
def isRowNumberName (name : String) : Bool :=
  ["rowid", "oid", "_rowid_"].any (sameName name)

/-- The source that a column name denotes, if there is such a column. -/
def columnSource? (table : Option Table) (qualifier : Option String) (name : String) :
    Option Source :=
  match table with
  | none => none
  | some t =>
    if qualifier.any fun q => !sameName q t.name then none
    else match t.columnIndex? name with
      | some i =>
        if (t.columns[i]?.map Column.isRowNumber).getD false then some .rowNumber
        else some (.column i)
      | none => if isRowNumberName name then some .rowNumber else none

/-- Resolves an expression over the columns of a table, if there is one. -/
def resolve (table : Option Table) : Expr → Except Error Source
  | .literal v => .ok (.value v)
  | .negate e => (resolve table e).map Source.negated
  | .column qualifier name orText offset =>
    match columnSource? table qualifier name with
    | some s => .ok s
    | none =>
      if orText then .ok (.value (.text name))
      else if qualifier.isNone && sameName name "true" then .ok (.value (.integer 1))
      else if qualifier.isNone && sameName name "false" then .ok (.value (.integer 0))
      else
        let shown := match qualifier with
          | some q => q ++ "." ++ name
          | none => name
        .error (.noSuchColumn shown (some offset))

/-- Resolves each expression of a list. -/
def resolveAll (table : Option Table) : List Expr → Except Error (List Source)
  | [] => .ok []
  | e :: es =>
    match resolve table e with
    | .error fault => .error fault
    | .ok s => (resolveAll table es).map (s :: ·)

/-- A row without values, for sources that name no column. -/
def Row.blank : Row := ⟨0, []⟩

/-- The values of rows that name no column. -/
def resolveRows : List (List Expr) → Except Error (List (List Value))
  | [] => .ok []
  | row :: rows =>
    match resolveAll none row with
    | .error fault => .error fault
    | .ok sources => (resolveRows rows).map ((sources.map (Source.eval Row.blank)) :: ·)

/-- The places of the listed columns of a table that the statement calls `shown`. -/
def resolveColumns (t : Table) (shown : String) : List String → Except Error (List Nat)
  | [] => .ok []
  | name :: names =>
    match t.columnIndex? name with
    | some i => (resolveColumns t shown names).map (i :: ·)
    | none => .error (.noSuchTarget shown name)

/-- Puts values given for the listed places into a whole row. -/
def spread (width : Nat) (places : List Nat) (values : List Value) : List Value :=
  (List.range width).map fun i => ((places.zip values).lookup i).getD .null

/-- Prepares an insertion into a table that the statement calls `shown`. -/
def prepareInsert (t : Table) (shown : String) (columns : Option (List String))
    (rows : List (List Expr)) : Except Error Operation :=
  match columns with
  | none =>
    match resolveRows rows with
    | .error fault => .error fault
    | .ok values =>
      let given := (values.head?.map List.length).getD 0
      if given ≠ t.columns.length then .error (.valueCount shown t.columns.length given)
      else .ok (.change (.insert t.name values))
  | some names =>
    match resolveColumns t shown names with
    | .error fault => .error fault
    | .ok places =>
      match resolveRows rows with
      | .error fault => .error fault
      | .ok values =>
        let given := (values.head?.map List.length).getD 0
        if given ≠ names.length then .error (.listedCount given names.length)
        else .ok (.change (.insert t.name (values.map (spread t.columns.length places))))

/-- Prepares the assignments of an update: each expression is resolved before its target. -/
def prepareAssignments (t : Table) : List (String × Expr) → Except Error (List (Nat × Source))
  | [] => .ok []
  | (name, e) :: rest =>
    match resolve (some t) e with
    | .error fault => .error fault
    | .ok source =>
      match t.columnIndex? name with
      | none => .error (.noSuchColumn name none)
      | some i => (prepareAssignments t rest).map ((i, source) :: ·)

/-- Checks the entries of a result list. -/
def checkResults (table : Option Table) : List ResultItem → Except Error Unit
  | [] => .ok ()
  | .all :: rest => if table.isNone then .error .noTables else checkResults table rest
  | .expr e :: rest =>
    match resolve table e with
    | .error fault => .error fault
    | .ok _ => checkResults table rest

/-- The text that an expression in a place for a name or file denotes. -/
def nameOf : Expr → String
  | .literal (.text s) => s
  | .literal (.integer n) => toString n
  | .column _ name _ _ => name
  | _ => ""

/-- Prepares a statement. -/
def prepare (schema : Schema) : Statement → Except Error Operation
  | .createTable _ table columns =>
    if (schema.main.table? table.name).isSome then .ok (.query true)
    else .ok (.change (.createTable ⟨table.name, columns, []⟩))
  | .dropTable ifPresent table =>
    match schema.writable table with
    | .ok t => .ok (.change (.dropTable t.name))
    | .error fault => if ifPresent then .ok (.query true) else .error fault
  | .insert table columns rows =>
    match schema.writable table with
    | .error fault => .error fault
    | .ok t => prepareInsert t table.shown columns rows
  | .select items source =>
    match source with
    | none => (checkResults none items).map fun _ => .query false
    | some name =>
      match schema.readable name with
      | .error fault => .error fault
      | .ok t => (checkResults (some t) items).map fun _ => .query true
  | .update table assignments =>
    match schema.writable table with
    | .error fault => .error fault
    | .ok t => (prepareAssignments t assignments).map fun a => .change (.update t.name a)
  | .delete table =>
    match schema.writable table with
    | .error fault => .error fault
    | .ok t => .ok (.change (.clear t.name))
  | .begin mode => .ok (.begin mode)
  | .commit => .ok .commit
  | .rollback => .ok .rollback
  | .pragma name value =>
    if sameName name "max_page_count" then
      match value with
      | some n => if 0 < n then .ok (.limitPages n.toNat) else .ok (.query true)
      | none => .ok (.query true)
    else .ok (.query false)
  | .attach file name => .ok (.attach (nameOf file) (nameOf name))

/-- Whether preparing a statement needs to know the tables. -/
def Statement.needsSchema : Statement → Bool
  | .createTable _ _ _ => true
  | .dropTable _ _ => true
  | .insert _ _ _ => true
  | .select _ source => source.isSome
  | .update _ _ => true
  | .delete _ => true
  | .pragma name _ => sameName name "max_page_count"
  | .attach _ _ => true
  | _ => false

/-! ## Running -/

/-- The first column, in table order, whose value must not be `null` but is. -/
def nullFault? (t : Table) (values : List Value) : Option Error :=
  ((t.columns.zip values).find? fun p => p.1.notNull && !p.1.isRowNumber && p.2 = .null).map
    fun p => .notNull t.name p.1.name

/-- The last declared unique column on which the values collide with another row. -/
def collision? (t : Table) (others : List Row) (values : List Value) : Option Error :=
  let clashes (i : Nat) : Bool :=
    others.any fun r => (r.values.getD i .null).matchesUnique (values.getD i .null)
  (t.columns.zipIdx.reverse.find? fun p => p.1.unique && !p.1.isRowNumber && clashes p.2).map
    fun p => .unique t.name p.1.name

/-- The column that is another name of the row number. -/
def Table.rowNumberColumn? (t : Table) : Option Column := t.columns.find? Column.isRowNumber

/-- The row number that the values ask for, `fallback` if they ask for none. -/
def askedNumber (t : Table) (fallback : Int) (values : List Value) : Except Error Int :=
  match (t.columns.zip values).find? fun p => p.1.isRowNumber with
  | none => .ok fallback
  | some (_, v) =>
    match v.store .integer with
    | .null => .ok fallback
    | .integer n => .ok n
    | _ => .error .typeMismatch

/-- Puts a row into a list ordered by row number. -/
def placeRow (row : Row) : List Row → List Row
  | [] => [row]
  | r :: rs => if row.number < r.number then row :: r :: rs else r :: placeRow row rs

/-- Puts values into a table next to the rows `others`. The row gets the number the values ask for,
or `fallback`. -/
def settle (t : Table) (others : List Row) (fallback : Int) (values : List Value) :
    Except Error Table :=
  match askedNumber t fallback values with
  | .error fault => .error fault
  | .ok number =>
    let stored := (t.columns.zip values).map fun p =>
      if p.1.isRowNumber then .integer number else p.2.store p.1.affinity
    match nullFault? t stored with
    | some fault => .error fault
    | none =>
      if others.any fun r => r.number = number then
        .error (.unique t.name ((t.rowNumberColumn?.map Column.name).getD "rowid"))
      else match collision? t others stored with
        | some fault => .error fault
        | none => .ok { t with rows := placeRow ⟨number, stored⟩ others }

/-- Inserts rows one after the other. -/
def insertRows : List (List Value) → Table → Except Error Table
  | [], t => .ok t
  | values :: rest, t =>
    match settle t t.rows t.nextNumber values with
    | .error fault => .error fault
    | .ok t => insertRows rest t

/-- The values of a row after assignments, all evaluated on the row as it was. -/
def assign (row : Row) (assignments : List (Nat × Source)) : List Value :=
  row.values.zipIdx.map fun p =>
    match assignments.reverse.lookup p.2 with
    | some source => source.eval row
    | none => p.1

/-- Changes rows one after the other. -/
def updateRows (assignments : List (Nat × Source)) : List Row → Table → Except Error Table
  | [], t => .ok t
  | row :: rest, t =>
    let others := t.rows.filter fun r => r.number ≠ row.number
    match settle t others row.number (assign row assignments) with
    | .error fault => .error fault
    | .ok t => updateRows assignments rest t

/-- Whether assignments touch a search tree other than that of the rows, or move rows. -/
def movesEntries (t : Table) (assignments : List (Nat × Source)) : Bool :=
  assignments.any fun a => t.columns[a.1]?.any fun c => c.unique || c.isRowNumber

/-- Whether a change writes anything. One that fails writes nothing if already its first row is
refused, and a row that comes out as it was is not written. -/
def Change.writes (db : Database) : Change → Bool
  | insert name rows =>
    match db.table? name with
    | none => false
    | some t => !rows.isEmpty && (insertRows (rows.take 1) t).isOk
  | update name assignments =>
    match db.table? name with
    | none => false
    | some t =>
      !t.rows.isEmpty && (updateRows assignments (t.rows.take 1) t).isOk &&
        (movesEntries t assignments || (updateRows assignments t.rows t).toOption ≠ some t)
  | _ => true

/-- Carries out a change. -/
def Change.run (db : Database) : Change → Except Error Database
  | createTable t => .ok (db.add t)
  | dropTable name => .ok (db.drop name)
  | insert name rows =>
    match db.table? name with
    | none => .error (.noSuchTable name)
    | some t => (insertRows rows t).map db.update
  | update name assignments =>
    match db.table? name with
    | none => .error (.noSuchTable name)
    | some t => (updateRows assignments t.rows t).map db.update
  | clear name =>
    match db.table? name with
    | none => .error (.noSuchTable name)
    | some t => .ok (db.update { t with rows := [] })

end SqlReplay.Sql
