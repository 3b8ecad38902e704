import SqlReplay.Document.Basic

/-!
# Building a TOML document

A document grows by headers, which open tables, and by assignments. Each table remembers how it
came about, for a table can be opened by a header only once, a table made by dotted keys can be
continued only by dotted keys, and a value can be continued by nothing.
-/

namespace SqlReplay.Toml

/-- How a table came about. -/
inductive Origin
  /-- On the way to another table. -/
  | passing
  /-- By dotted keys. -/
  | dotted
  /-- By a header of its own. -/
  | header
deriving DecidableEq

/-- A part of a growing document. -/
inductive Tree
  | value (d : Document)
  | table (origin : Origin) (entries : List (String × Tree))
  /-- Tables that share a header with two brackets. -/
  | tables (items : List (List (String × Tree)))

/-- The entries of a table. -/
abbrev Entries := List (String × Tree)

/-- Replaces the entry of a key, or puts one at the end, as `f` says. -/
def alter (key : String) (f : Option Tree → Option Tree) : Entries → Option Entries
  | [] => (f none).map fun t => [(key, t)]
  | (k, t) :: rest =>
    if k = key then (f (some t)).map fun t => (k, t) :: rest
    else (alter key f rest).map fun rest => (k, t) :: rest

/-- Changes the last of several tables. -/
def alterLast (f : Entries → Option Entries) : List Entries → Option (List Entries)
  | [] => none
  | [es] => (f es).map fun es => [es]
  | es :: more => (alterLast f more).map fun more => es :: more

/-- Goes along the keys of a header, making tables that are missing, and changes what is there. -/
def descend (f : Entries → Option Entries) : List String → Entries → Option Entries
  | [], es => f es
  | key :: keys, es => alter key (fun
    | none => (descend f keys []).map (.table .passing)
    | some (.table origin inner) => (descend f keys inner).map (.table origin)
    | some (.tables items) => (alterLast (descend f keys) items).map .tables
    | some (.value _) => none) es

/-- Opens a table by its header. -/
def openTable (keys : List String) (es : Entries) : Option Entries :=
  match keys.getLast? with
  | none => none
  | some last => descend (alter last fun
    | none => some (.table .header [])
    | some (.table .passing inner) => some (.table .header inner)
    | _ => none) keys.dropLast es

/-- Opens one more of several tables by its header. -/
def openItem (keys : List String) (es : Entries) : Option Entries :=
  match keys.getLast? with
  | none => none
  | some last => descend (alter last fun
    | none => some (.tables [[]])
    | some (.tables items) => some (.tables (items ++ [[]]))
    | _ => none) keys.dropLast es

/-- Assigns a value to a dotted key within a table. -/
def assign (d : Document) : List String → Entries → Option Entries
  | [], _ => none
  | [key], es => alter key (fun
    | none => some (.value d)
    | some _ => none) es
  | key :: next :: keys, es => alter key (fun
    | none => (assign d (next :: keys) []).map (.table .dotted)
    | some (.table .dotted inner) => (assign d (next :: keys) inner).map (.table .dotted)
    | some (.table .passing inner) =>
      if keys.isEmpty then none
      else (assign d (next :: keys) inner).map (.table .passing)
    | some (.tables items) =>
      if keys.isEmpty then none
      else (alterLast (assign d (next :: keys)) items).map .tables
    | _ => none) es

mutual

/-- The data tree of a finished part. -/
def Tree.document : Tree → Document
  | .value d => d
  | .table _ entries => .record (entriesDocument entries)
  | .tables items => .list (itemsDocument items)

/-- The fields of finished entries. -/
def entriesDocument : List (String × Tree) → List (String × Document)
  | [] => []
  | (key, t) :: rest => (key, t.document) :: entriesDocument rest

/-- The data trees of finished tables. -/
def itemsDocument : List (List (String × Tree)) → List Document
  | [] => []
  | es :: rest => .record (entriesDocument es) :: itemsDocument rest

end

end SqlReplay.Toml
