import SqlReplay.Document.Basic
import SqlReplay.Text.Hexadecimal

/-!
# Compact JSON

Fields in order, no space between tokens. In strings the quote, the backslash and the controls are
escaped, the usual controls by a letter and the others by number; every other character stands for
itself.
-/

namespace SqlReplay.Document

/-- One character inside a JSON string. -/
def escapeChar (c : Char) : List Char :=
  match c with
  | '"' => ['\\', '"']
  | '\\' => ['\\', '\\']
  | '\x08' => ['\\', 'b']
  | '\x0c' => ['\\', 'f']
  | '\n' => ['\\', 'n']
  | '\r' => ['\\', 'r']
  | '\t' => ['\\', 't']
  | c => if c.toNat < 0x20 then '\\' :: 'u' :: Text.hexDigits 4 c.toNat else [c]

/-- A JSON string. -/
def jsonString (cs : List Char) : List Char := '"' :: (cs.flatMap escapeChar ++ ['"'])

mutual

/-- The JSON text of a tree. -/
def json : Document → List Char
  | null => "null".toList
  | flag true => "true".toList
  | flag false => "false".toList
  | integer n => (toString n).toList
  | real literal => literal.toList
  | text s => jsonString s.toList
  | list [] => ['[', ']']
  | list (d :: ds) => '[' :: (json d ++ jsonItems ds)
  | record [] => ['\x7b', '\x7d']
  | record ((name, d) :: fs) =>
    '\x7b' :: (jsonString name.toList ++ ':' :: (json d ++ jsonFields fs))

/-- The items of a list after the first, and the closing bracket. -/
def jsonItems : List Document → List Char
  | [] => [']']
  | d :: ds => ',' :: (json d ++ jsonItems ds)

/-- The fields of a record after the first, and the closing brace. -/
def jsonFields : List (String × Document) → List Char
  | [] => ['\x7d']
  | (name, d) :: fs => ',' :: (jsonString name.toList ++ ':' :: (json d ++ jsonFields fs))

end

/-- `json` as a string. -/
def jsonText (d : Document) : String := String.ofList d.json

mutual

/-- The tree with the fields of every record sorted by name. -/
def sortFields : Document → Document
  | list items => list (sortItems items)
  | record fields => record ((sortEach fields).mergeSort fun a b => a.1 ≤ b.1)
  | d => d

/-- `sortFields` on each item. -/
def sortItems : List Document → List Document
  | [] => []
  | d :: ds => sortFields d :: sortItems ds

/-- `sortFields` on the value of each field. -/
def sortEach : List (String × Document) → List (String × Document)
  | [] => []
  | (name, d) :: fs => (name, sortFields d) :: sortEach fs

end

end SqlReplay.Document
