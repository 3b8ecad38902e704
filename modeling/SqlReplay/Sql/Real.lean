import SqlReplay.Text.Hexadecimal

/-!
# Reals as text and back

A real is kept as its 64 bits. Its text has at most fifteen significant digits, positional for
exponents from -4 to 14, and always shows a point.
-/

namespace SqlReplay.Sql

/-- The sign, the integer significand and the binary exponent of a finite real. -/
def realParts (bits : UInt64) : Bool × Nat × Int :=
  let n := bits.toNat
  let exponent : Nat := n / Nat.pow 2 52 % Nat.pow 2 11
  let fraction : Nat := n % Nat.pow 2 52
  let negative := n / Nat.pow 2 63 = 1
  if exponent = 0 then (negative, fraction, -1074)
  else (negative, fraction + Nat.pow 2 52, (exponent : Int) - 1075)

/-- The quotient rounded to the nearest integer, a half upwards. -/
def roundQuotient (num den : Nat) : Nat := (2 * num + den) / (2 * den)

/-- `m * 2 ^ q / 10 ^ k` rounded to the nearest integer. -/
def scaled (m : Nat) (q k : Int) : Nat :=
  let num := m * Nat.pow 2 q.toNat * Nat.pow 10 (-k).toNat
  let den := Nat.pow 2 (-q).toNat * Nat.pow 10 k.toNat
  roundQuotient num den

/-- The greatest exponent `k` from `k` downwards at which the scaled value has fifteen digits. -/
def decimalExponent (m : Nat) (q : Int) : Nat → Int → Int
  | 0, k => k
  | fuel + 1, k =>
    if scaled m q k ≥ Nat.pow 10 14 then (if scaled m q k ≥ Nat.pow 10 15 then k + 1 else k)
    else decimalExponent m q fuel (k - 1)

/-- Digits without the zeros at their end. -/
def dropZeros (digits : List Char) : List Char := (digits.reverse.dropWhile (· = '0')).reverse

/-- The text of fifteen digits whose first has the weight `10 ^ exponent`. -/
def layoutReal (digits : List Char) (exponent : Int) : List Char :=
  let some15 := dropZeros digits
  if exponent < -4 ∨ 15 ≤ exponent then
    let tail := some15.drop 1
    let sign := if exponent < 0 then '-' else '+'
    let size := exponent.natAbs.repr.toList
    some15.take 1 ++ '.' :: ((if tail.isEmpty then ['0'] else tail) ++ 'e' :: sign ::
      (if size.length < 2 then '0' :: size else size))
  else if exponent < 0 then
    '0' :: '.' :: (List.replicate (exponent.natAbs - 1) '0' ++ some15)
  else
    let whole := digits.take (exponent.toNat + 1)
    let tail := dropZeros (digits.drop (exponent.toNat + 1))
    whole ++ '.' :: (if tail.isEmpty then ['0'] else tail)

/-- The text of a real. -/
def realText (bits : UInt64) : List Char :=
  let (negative, m, q) := realParts bits
  let sign := if negative then ['-'] else []
  if bits.toNat / Nat.pow 2 52 % Nat.pow 2 11 = 2047 then sign ++ "Inf".toList
  else if m = 0 then "0.0".toList
  else
    let k := decimalExponent m q 700 300
    let digits := (scaled m q k).repr.toList
    if digits.length > 15 then sign ++ layoutReal (digits.take 15) (k + 15)
    else sign ++ layoutReal digits (k + 14)

/-- The integer that a real equals, if it equals one of 64 bits with sign. -/
def realInteger? (bits : UInt64) : Option Int :=
  let (negative, m, q) := realParts bits
  if bits.toNat / Nat.pow 2 52 % Nat.pow 2 11 = 2047 then none
  else
    let den := Nat.pow 2 (-q).toNat
    let num := m * Nat.pow 2 q.toNat
    if num % den = 0 ∧ num / den < Nat.pow 2 63 then
      some (if negative then -((num / den : Nat) : Int) else ((num / den : Nat) : Int))
    else none

/-- The bits of a decimal number with digits `n` and exponent `e`. -/
def realOfDecimal (n : Nat) (e : Int) : UInt64 :=
  (if e < 0 then Float.ofScientific n true e.natAbs else Float.ofScientific n false e.natAbs).toBits

/-- The bits of an integer as a real. -/
def realOfInteger (n : Int) : UInt64 := (Float.ofInt n).toBits

/-- The bits of the negated real. -/
def negateReal (bits : UInt64) : UInt64 := bits ^^^ 0x8000000000000000

end SqlReplay.Sql
