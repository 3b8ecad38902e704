import SqlReplay.Document.Toml.Lexeme
import SqlReplay.Document.Toml.Tree

/-!
# Reading TOML

The whole of version 1.0. Integers are those of 64 bits with sign; a date or time becomes a record
with one field.
-/

namespace SqlReplay.Toml

/-- Whether a character can stand in a key without quotes. -/
def isBareKeyChar (c : Char) : Bool := c.isAlphanum || c = '_' || c = '-'

/-- Reads one part of a key. -/
def readKeyPart? (cs : List Char) : Option (String × List Char) :=
  match cs with
  | '"' :: rest => (readBasic (rest.length + 1) rest).map fun (k, rest) => (String.ofList k, rest)
  | '\'' :: rest => (readLiteral rest).map fun (k, rest) => (String.ofList k, rest)
  | cs =>
    let key := cs.takeWhile isBareKeyChar
    if key.isEmpty then none else some (String.ofList key, cs.drop key.length)

/-- How deep values, and how long keys, may be. -/
def depthLimit : Nat := 79

/-- Reads at most `limit` parts of a key between dots, with blanks around each. -/
def readKeyParts : Nat → List Char → Option (List String × List Char)
  | 0, _ => none
  | limit + 1, cs => do
    let (part, cs) ← readKeyPart? (skipBlanks cs)
    match skipBlanks cs with
    | '.' :: cs => (readKeyParts limit cs).map fun (parts, cs) => (part :: parts, cs)
    | cs => some ([part], cs)

/-- Reads a key. -/
def readKey? (cs : List Char) : Option (List String × List Char) := readKeyParts depthLimit cs

mutual

/-- Reads a value that may hold values `depth` levels deep; `fuel` bounds the number of values. -/
def readValue : Nat → Nat → List Char → Option (Document × List Char)
  | 0, _, _ => none
  | fuel + 1, depth, cs =>
    match cs, depth with
    | '"' :: _, _ => (readText? cs).map fun (s, cs) => (.text (String.ofList s), cs)
    | '\'' :: _, _ => (readText? cs).map fun (s, cs) => (.text (String.ofList s), cs)
    | '[' :: _, 0 => none
    | '[' :: rest, depth + 1 =>
      (readItems fuel depth rest).map fun (items, cs) => (.list items, cs)
    | '\x7b' :: _, 0 => none
    | '\x7b' :: rest, depth + 1 =>
      match skipBlanks rest with
      | '\x7d' :: cs => some (.record [], cs)
      | cs => (readPairs fuel depth [] cs).map fun (es, cs) => (.record (entriesDocument es), cs)
    | cs, _ => readScalar? cs

/-- Reads the items of an array up to and including its closing bracket. -/
def readItems : Nat → Nat → List Char → Option (List Document × List Char)
  | 0, _, _ => none
  | fuel + 1, depth, cs =>
    match skipLines (cs.length + 1) cs with
    | ']' :: cs => some ([], cs)
    | cs => do
      let (item, cs) ← readValue fuel depth cs
      match skipLines (cs.length + 1) cs with
      | ']' :: cs => some ([item], cs)
      | ',' :: cs => (readItems fuel depth cs).map fun (items, cs) => (item :: items, cs)
      | _ => none

/-- Reads the pairs of an inline table after those of `es`, up to and including its closing
brace. -/
def readPairs : Nat → Nat → Entries → List Char → Option (Entries × List Char)
  | 0, _, _, _ => none
  | fuel + 1, depth, es, cs => do
    let (key, cs) ← readKey? cs
    let cs ← Document.after? ['='] cs
    let (d, cs) ← readValue fuel depth (skipBlanks cs)
    let es ← assign d key es
    match skipBlanks cs with
    | '\x7d' :: cs => some (es, cs)
    | ',' :: cs => readPairs fuel depth es cs
    | _ => none

end

/-- A document of which a part has been read, and the header of the table that is open. -/
structure Draft where
  entries : Entries
  header : List String

/-- Reads one line that is not blank: a header or an assignment. -/
def readEntry? (draft : Draft) (cs : List Char) : Option (Draft × List Char) :=
  match cs with
  | '[' :: '[' :: rest => do
    let (keys, cs) ← readKey? rest
    let cs ← Document.after? [']', ']'] cs
    let entries ← openItem keys draft.entries
    return (⟨entries, keys⟩, cs)
  | '[' :: rest => do
    let (keys, cs) ← readKey? rest
    let cs ← Document.after? [']'] cs
    let entries ← openTable keys draft.entries
    return (⟨entries, keys⟩, cs)
  | cs => do
    let (keys, cs) ← readKey? cs
    let cs ← Document.after? ['='] cs
    let (d, cs) ← readValue (cs.length + 1) depthLimit (skipBlanks cs)
    let entries ← descend (assign d keys) draft.header draft.entries
    return (⟨entries, draft.header⟩, cs)

/-- Reads lines to the end of the text; `fuel` bounds their number. -/
def readEntries : Nat → Draft → List Char → Option Entries
  | 0, _, _ => none
  | fuel + 1, draft, cs =>
    match skipLines (cs.length + 1) cs with
    | [] => some draft.entries
    | cs => do
      let (draft, cs) ← readEntry? draft cs
      let cs ← afterLine? cs
      readEntries fuel draft cs

/-- The data tree that a TOML text denotes. A byte order mark at its beginning does not matter. -/
def parse? (cs : List Char) : Option Document :=
  let cs := match cs with
    | '\uFEFF' :: cs => cs
    | cs => cs
  (readEntries (cs.length + 1) ⟨[], []⟩ cs).map fun es => .record (entriesDocument es)

end SqlReplay.Toml
