import SqlReplay.Document.Basic
import SqlReplay.Text.Hexadecimal

/-!
# Writing TOML

Tables of scalars and lists of texts, one table after the other. A text is written in the plainest
form that holds it: in double quotes if nothing in it needs an escape, in single quotes otherwise,
on several lines if it has several, and with escapes if nothing else will do.
-/

namespace SqlReplay.Toml

/-- Whether a character must be written by an escape wherever it stands. -/
def isControl (c : Char) : Bool :=
  (c.toNat < 0x20 && c ≠ '\t' && c ≠ '\n') || c.toNat = 0x7F

/-- The greatest number of copies of a character that follow one another. -/
def longestRun (q : Char) : List Char → Nat → Nat → Nat
  | [], run, best => max run best
  | c :: cs, run, best => if c = q then longestRun q cs (run + 1) best
    else longestRun q cs 0 (max run best)

/-- One character inside a string with escapes. -/
def escapeBasic (c : Char) : List Char :=
  match c with
  | '\x08' => ['\\', 'b']
  | '\t' => ['\\', 't']
  | '\n' => ['\\', 'n']
  | '\x0c' => ['\\', 'f']
  | '\r' => ['\\', 'r']
  | '"' => ['\\', '"']
  | '\\' => ['\\', '\\']
  | c =>
    if c.toNat < 0x20 || c.toNat = 0x7F then
      '\\' :: 'u' :: (Text.hexDigits 4 c.toNat).map Char.toUpper
    else [c]

/-- Escapes a text of several lines: line feeds stand for themselves, and so do up to two quotes in
a row. `run` counts the quotes just written. -/
def escapeLines : List Char → Nat → List Char
  | [], _ => []
  | c :: cs, run =>
    if c = '\n' then '\n' :: escapeLines cs 0
    else if c = '"' then
      if run < 2 then '"' :: escapeLines cs (run + 1) else '\\' :: '"' :: escapeLines cs 0
    else escapeBasic c ++ escapeLines cs 0

/-- Three copies of a quote. -/
def triple (q : Char) : List Char := [q, q, q]

/-- A text in the plainest form that holds it. -/
def quoteText (cs : List Char) : List Char :=
  let control := cs.any isControl
  let escapes := control || cs.any fun c => c = '\\' || c = '\t'
  let lines := cs.contains '\n'
  let start := if lines then ['\n'] else []
  if !escapes && !cs.contains '"' && !lines then '"' :: (cs ++ ['"'])
  else if !control && !cs.contains '\'' && !lines then '\'' :: (cs ++ ['\''])
  else if !escapes && longestRun '"' cs 0 0 ≤ 2 then triple '"' ++ start ++ cs ++ triple '"'
  else if !control && longestRun '\'' cs 0 0 ≤ 2 then triple '\'' ++ start ++ cs ++ triple '\''
  else if lines then triple '"' ++ start ++ escapeLines cs 0 ++ triple '"'
  else '"' :: (cs.flatMap escapeBasic ++ ['"'])

/-- A list of texts: on one line up to one item, else one item a line. -/
def quoteList (items : List String) : List Char :=
  match items with
  | [] => "[]".toList
  | [s] => '[' :: (quoteText s.toList ++ [']'])
  | items => "[\n".toList
      ++ items.flatMap (fun s => "    ".toList ++ quoteText s.toList ++ ",\n".toList) ++ [']']

/-- What can stand behind a key. -/
inductive Scalar
  | text (s : String)
  | integer (n : Nat)
  | texts (items : List String)

/-- A scalar as written. -/
def Scalar.written : Scalar → List Char
  | text s => quoteText s.toList
  | integer n => n.repr.toList
  | texts items => quoteList items

/-- A table of scalars. -/
structure Section where
  name : String
  fields : List (String × Scalar)

/-- A table with its header. -/
def Section.written (s : Section) : List Char :=
  '[' :: (s.name.toList ++ "]\n".toList
    ++ s.fields.flatMap fun f => f.1.toList ++ " = ".toList ++ f.2.written ++ ['\n'])

/-- Tables with a blank line between them. -/
def printSections (sections : List Section) : List Char :=
  ['\n'].intercalate (sections.map Section.written)

end SqlReplay.Toml
