import SqlReplay.Sql.Real
import SqlReplay.Text.Split
import SqlReplay.Text.Utf8

/-!
# Stored values

A value carries its own type; a column only prefers one. Storing a value in a column converts it to
the preferred type where nothing is lost.
-/

namespace SqlReplay.Sql

/-- A stored value. -/
inductive Value
  | null
  | integer (n : Int)
  | real (bits : UInt64)
  | text (s : String)
  | blob (bytes : Bytes)
deriving DecidableEq, Inhabited

/-- The type that a column prefers. -/
inductive Affinity
  | integer
  | text
  | blob
  | real
  | numeric
deriving DecidableEq, Inhabited

namespace Affinity

/-- The affinity that a declared type, a possibly empty text, stands for. -/
def ofDeclared (declared : String) : Affinity :=
  let name := declared.toList.map Char.toUpper
  let mentions (s : String) : Bool := Text.occursIn s.toList name
  if mentions "INT" then integer
  else if mentions "CHAR" || mentions "CLOB" || mentions "TEXT" then text
  else if name.isEmpty || mentions "BLOB" then blob
  else if mentions "REAL" || mentions "FLOA" || mentions "DOUB" then real
  else numeric

end Affinity

/-- Whether a character is white space of the query language. -/
def isSqlSpace (c : Char) : Bool := c = ' ' || (0x9 ≤ c.toNat && c.toNat ≤ 0xD)

/-- The number with digits `whole` and `fraction` and a decimal exponent. -/
def decimalValue (whole fraction : List Char) (exponent : Int) : UInt64 :=
  let digits := (whole ++ fraction).foldl (fun n c => 10 * n + (c.toNat - 48)) 0
  realOfDecimal digits (exponent - fraction.length)

/-- An unsigned number with its parts: digits before and after the point, and the exponent. -/
structure Numeral where
  whole : List Char
  fraction : List Char
  exponent : Int
  /-- Whether the numeral has neither point nor exponent. -/
  isInteger : Bool

/-- Reads the longest numeral at the beginning of a text. -/
def Numeral.read? (cs : List Char) : Option (Numeral × List Char) :=
  let (whole, rest) := cs.span Char.isDigit
  let (fraction, rest, point) := match rest with
    | '.' :: more => let (f, more) := more.span Char.isDigit; (f, more, true)
    | rest => ([], rest, false)
  if whole.isEmpty && fraction.isEmpty then none
  else
    let plain := (⟨whole, fraction, 0, !point⟩, rest)
    match rest with
    | e :: more =>
      if e = 'e' ∨ e = 'E' then
        let (negative, more) := match more with
          | '-' :: more => (true, more)
          | '+' :: more => (false, more)
          | more => (false, more)
        let (digits, more) := more.span Char.isDigit
        if digits.isEmpty then some plain
        else
          let n : Nat := digits.foldl (fun n c => min 100000 (10 * n + (c.toNat - 48))) 0
          some (⟨whole, fraction, if negative then -(n : Int) else n, false⟩, more)
      else some plain
    | [] => some plain

/-- The value of a numeral: an integer if it is written as one and fits 63 bits. -/
def Numeral.value (negative : Bool) (n : Numeral) : Value :=
  let digits : Nat := n.whole.foldl (fun v c => 10 * v + (c.toNat - 48)) 0
  if n.isInteger && (if negative then digits ≤ UInt64.size / 2 else digits < UInt64.size / 2) then
    .integer (if negative then -(digits : Int) else digits)
  else
    let bits := decimalValue n.whole n.fraction n.exponent
    .real (if negative then negateReal bits else bits)

/-- The number that a whole text denotes, blanks at its ends aside. -/
def numberOfText? (cs : List Char) : Option Value :=
  let cs := cs.dropWhile isSqlSpace
  let (negative, cs) := match cs with
    | '-' :: cs => (true, cs)
    | '+' :: cs => (false, cs)
    | cs => (false, cs)
  match Numeral.read? cs with
  | some (n, rest) => if rest.all isSqlSpace then some (n.value negative) else none
  | none => none

namespace Value

/-- A real that equals an integer becomes that integer. -/
def preferInteger : Value → Value
  | real bits => match realInteger? bits with
    | some n => integer n
    | none => real bits
  | v => v

/-- Converts a value for storage in a column. -/
def store (affinity : Affinity) (v : Value) : Value :=
  match affinity, v with
  | .blob, v => v
  | .text, integer n => text (toString n)
  | .text, real bits => text (String.ofList (realText bits))
  | .text, v => v
  | .real, integer n => real (realOfInteger n)
  | .real, text s => match numberOfText? s.toList with
    | some (integer n) => real (realOfInteger n)
    | some v => v
    | none => text s
  | .real, v => v
  | _, text s => match numberOfText? s.toList with
    | some v => v.preferInteger
    | none => text s
  | _, v => v.preferInteger

/-- Whether two values count as the same for a uniqueness constraint. `null` equals nothing. -/
def matchesUnique (a b : Value) : Bool :=
  match a, b with
  | null, _ => false
  | _, null => false
  | a, b => a.preferInteger = b.preferInteger

/-- The number a value counts as in arithmetic. -/
def asNumber : Value → Value
  | null => null
  | integer n => integer n
  | real bits => real bits
  | text s => (numberOfText? s.toList).getD (integer 0)
  | blob _ => integer 0

/-- The negated value. -/
def negate (v : Value) : Value :=
  match v.asNumber with
  | integer n =>
    if n = -(UInt64.size / 2 : Nat) then real (realOfInteger (UInt64.size / 2 : Nat))
    else integer (-n)
  | real bits => real (negateReal bits)
  | v => v

end Value

end SqlReplay.Sql
