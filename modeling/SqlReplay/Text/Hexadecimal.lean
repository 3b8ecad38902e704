/-!
# Hexadecimal digits
-/

namespace SqlReplay.Text

/-- The lower-case digit of a value below sixteen. -/
def hexDigit (n : Nat) : Char := if n < 10 then Char.ofNat (48 + n) else Char.ofNat (87 + n)

/-- The value of a digit of either case. -/
def hexValue? (c : Char) : Option Nat :=
  if '0' ≤ c ∧ c ≤ '9' then some (c.toNat - 48)
  else if 'a' ≤ c ∧ c ≤ 'f' then some (c.toNat - 87)
  else if 'A' ≤ c ∧ c ≤ 'F' then some (c.toNat - 55)
  else none

/-- The last `width` digits of a number, most significant first. -/
def hexDigits : Nat → Nat → List Char
  | 0, _ => []
  | width + 1, n => hexDigits width (n / 16) ++ [hexDigit (n % 16)]

/-- The number of digits a number needs, at least one. -/
def hexWidth (n : Nat) : Nat := if n < 16 then 1 else 1 + hexWidth (n / 16)
termination_by n

/-- A number with as few digits as it needs. -/
def hexShort (n : Nat) : List Char := hexDigits (hexWidth n) n

end SqlReplay.Text
