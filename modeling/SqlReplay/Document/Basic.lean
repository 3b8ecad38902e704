/-!
# Data trees

The value of a configuration file, an event line or a report: scalars, lists, and records whose
fields keep their order. Numbers are integers or, where they have a fraction, an exponent or a size
beyond 64 bits, reals kept as they were written.
-/

namespace SqlReplay

/-- A data tree. -/
inductive Document
  | null
  | flag (value : Bool)
  | integer (value : Int)
  | real (literal : String)
  | text (value : String)
  | list (items : List Document)
  | record (fields : List (String × Document))
deriving Inhabited

namespace Document

/-- The last field of the given name, if the tree is a record that has one. -/
def field? (d : Document) (name : String) : Option Document :=
  match d with
  | record fields => (fields.reverse.find? fun f => f.1 = name).map Prod.snd
  | _ => none

/-- The names of the fields of a record, in order. -/
def names : Document → List String
  | record fields => fields.map Prod.fst
  | _ => []

/-- The text of a text node. -/
def text? : Document → Option String
  | text s => some s
  | _ => none

/-- The value of a flag. -/
def flag? : Document → Option Bool
  | flag b => some b
  | _ => none

/-- The value of an integer from zero to `limit`. -/
def natural? (limit : Nat) : Document → Option Nat
  | integer n => if 0 ≤ n ∧ n ≤ limit then some n.toNat else none
  | _ => none

/-- The items of a list. -/
def list? : Document → Option (List Document)
  | list items => some items
  | _ => none

/-- Whether the tree is `null`. -/
def isNull : Document → Bool
  | null => true
  | _ => false

/-- A natural number as a node. -/
def ofNat (n : Nat) : Document := integer n

end Document

end SqlReplay
