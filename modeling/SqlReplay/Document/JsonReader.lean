import SqlReplay.Document.Basic
import SqlReplay.Text.Hexadecimal

/-!
# Reading JSON

The whole grammar. An integer that fits 64 bits, signed if negative, is read as an integer; every
other number, `-0` among them, as a real. Half of a surrogate pair is refused.
-/

namespace SqlReplay.Document

/-- Whether JSON allows the character between tokens. -/
def isJsonSpace (c : Char) : Bool := c = ' ' || c = '\t' || c = '\n' || c = '\r'

/-- The text after leading space. -/
def skipSpace (cs : List Char) : List Char := cs.dropWhile isJsonSpace

/-- What follows `token`, if the text begins with it. -/
def after? (token : List Char) (cs : List Char) : Option (List Char) :=
  match token, cs with
  | [], cs => some cs
  | _ :: _, [] => none
  | t :: ts, c :: cs => if t = c then after? ts cs else none

/-- The character that a letter after a backslash stands for. -/
def unescape? : Char → Option Char
  | '"' => some '"'
  | '\\' => some '\\'
  | '/' => some '/'
  | 'b' => some '\x08'
  | 'f' => some '\x0c'
  | 'n' => some '\n'
  | 'r' => some '\r'
  | 't' => some '\t'
  | _ => none

/-- The number that four hexadecimal digits denote. -/
def hexQuad? (a b c d : Char) : Option Nat := do
  let a ← Text.hexValue? a
  let b ← Text.hexValue? b
  let c ← Text.hexValue? c
  let d ← Text.hexValue? d
  return ((a * 16 + b) * 16 + c) * 16 + d

/-- Puts a character before what has been read. -/
def push (c : Char) (r : List Char × List Char) : List Char × List Char := (c :: r.1, r.2)

/-- Reads a string after its opening quote. -/
def readString : List Char → Option (List Char × List Char)
  | [] => none
  | '"' :: cs => some ([], cs)
  | '\\' :: 'u' :: a :: b :: c :: d :: cs => do
    let n ← hexQuad? a b c d
    if n < 0xD800 ∨ 0xDFFF < n then (readString cs).map (push (Char.ofNat n))
    else if n < 0xDC00 then
      match cs with
      | '\\' :: 'u' :: e :: f :: g :: h :: cs => do
        let m ← hexQuad? e f g h
        if 0xDC00 ≤ m ∧ m ≤ 0xDFFF then
          (readString cs).map (push (Char.ofNat (0x10000 + (n - 0xD800) * 0x400 + (m - 0xDC00))))
        else none
      | _ => none
    else none
  | '\\' :: e :: cs => do
    let c ← unescape? e
    (readString cs).map (push c)
  | c :: cs => if c.toNat < 0x20 then none else (readString cs).map (push c)

/-- The leading digits of a text and what follows them. -/
def spanDigits (cs : List Char) : List Char × List Char := cs.span Char.isDigit

/-- Reads a fraction, if there is one: the point and at least one digit. -/
def readFraction (cs : List Char) : Option (List Char × List Char) :=
  match cs with
  | '.' :: cs =>
    let (digits, cs) := spanDigits cs
    if digits.isEmpty then none else some ('.' :: digits, cs)
  | cs => some ([], cs)

/-- Reads an exponent, if there is one: its letter, a sign or none, and at least one digit. -/
def readExponent (cs : List Char) : Option (List Char × List Char) :=
  match cs with
  | c :: cs =>
    if c = 'e' ∨ c = 'E' then
      let (sign, cs) := match cs with
        | '+' :: cs => (['+'], cs)
        | '-' :: cs => (['-'], cs)
        | cs => ([], cs)
      let (digits, cs) := spanDigits cs
      if digits.isEmpty then none else some (c :: (sign ++ digits), cs)
    else some ([], c :: cs)
  | [] => some ([], [])

/-- The value of decimal digits. -/
def digitsValue (cs : List Char) : Nat := cs.foldl (fun n c => 10 * n + (c.toNat - 48)) 0

/-- The node for a number without fraction and exponent. -/
def integerNode (negative : Bool) (digits : List Char) : Document :=
  let n := digitsValue digits
  if negative then
    if 0 < n ∧ n ≤ UInt64.size / 2 then integer (-n) else real (String.ofList ('-' :: digits))
  else if n < UInt64.size then integer n
  else real (String.ofList digits)

/-- Reads a number after its sign. -/
def readNumber (negative : Bool) (cs : List Char) : Option (Document × List Char) := do
  let (digits, rest) := spanDigits cs
  if digits.isEmpty ∨ (digits.length > 1 ∧ digits.head? = some '0') then none
  else do
    let (fraction, rest) ← readFraction rest
    let (exponent, rest) ← readExponent rest
    if fraction.isEmpty ∧ exponent.isEmpty then return (integerNode negative digits, rest)
    else
      let sign := if negative then ['-'] else []
      return (real (String.ofList (sign ++ digits ++ fraction ++ exponent)), rest)

mutual

/-- Reads a value; `fuel` bounds the number of nested and following values. -/
def readValue (fuel : Nat) (cs : List Char) : Option (Document × List Char) :=
  match fuel with
  | 0 => none
  | fuel + 1 =>
    match skipSpace cs with
    | '\x7b' :: cs =>
      match skipSpace cs with
      | '\x7d' :: cs => some (record [], cs)
      | cs => (readFields fuel cs).map fun (fields, cs) => (record fields, cs)
    | '[' :: cs =>
      match skipSpace cs with
      | ']' :: cs => some (list [], cs)
      | cs => (readItems fuel cs).map fun (items, cs) => (list items, cs)
    | '"' :: cs => (readString cs).map fun (s, cs) => (text (String.ofList s), cs)
    | '-' :: cs => readNumber true cs
    | 't' :: cs => (after? "rue".toList cs).map (flag true, ·)
    | 'f' :: cs => (after? "alse".toList cs).map (flag false, ·)
    | 'n' :: cs => (after? "ull".toList cs).map (null, ·)
    | cs => readNumber false cs

/-- Reads items up to and including the closing bracket. -/
def readItems (fuel : Nat) (cs : List Char) : Option (List Document × List Char) :=
  match fuel with
  | 0 => none
  | fuel + 1 => do
    let (item, cs) ← readValue fuel cs
    match skipSpace cs with
    | ']' :: cs => return ([item], cs)
    | ',' :: cs => (readItems fuel cs).map fun (items, cs) => (item :: items, cs)
    | _ => none

/-- Reads fields up to and including the closing brace. -/
def readFields (fuel : Nat) (cs : List Char) : Option (List (String × Document) × List Char) :=
  match fuel with
  | 0 => none
  | fuel + 1 =>
    match skipSpace cs with
    | '"' :: cs => do
      let (name, cs) ← readString cs
      match skipSpace cs with
      | ':' :: cs => do
        let (value, cs) ← readValue fuel cs
        match skipSpace cs with
        | '\x7d' :: cs => return ([(String.ofList name, value)], cs)
        | ',' :: cs =>
          (readFields fuel cs).map fun (fields, cs) => ((String.ofList name, value) :: fields, cs)
        | _ => none
      | _ => none
    | _ => none

end

/-- The tree that a JSON text denotes. -/
def ofJson? (cs : List Char) : Option Document := do
  let (d, rest) ← readValue (cs.length + 1) cs
  if (skipSpace rest).isEmpty then return d else none

/-- `ofJson?` on strings. -/
def ofJsonText? (s : String) : Option Document := ofJson? s.toList

end SqlReplay.Document
