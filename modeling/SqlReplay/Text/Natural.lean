/-!
# Decimal numbers without sign

Reading accepts one `+` before the digits and any number of leading zeros. A fault is found at the
first character that causes it: a number that is too large is reported only if every character up
to the overflow is a digit.
-/

namespace SqlReplay.Text

/-- Why a text is no number in range. -/
inductive NaturalFault
  | empty
  | invalidDigit
  | tooLarge
deriving DecidableEq

namespace NaturalFault

/-- The fault in words. -/
def message : NaturalFault → String
  | empty => "cannot parse integer from empty string"
  | invalidDigit => "invalid digit found in string"
  | tooLarge => "number too large to fit in target type"

end NaturalFault

/-- The value of an ASCII digit. -/
def digit? (c : Char) : Option Nat :=
  if c.isDigit then some (c.toNat - '0'.toNat) else none

/-- Reads digits after a value `n` that has been read already. -/
def readDigits (limit n : Nat) : List Char → Except NaturalFault Nat
  | [] => .ok n
  | c :: cs => match digit? c with
    | none => .error .invalidDigit
    | some d => if 10 * n + d > limit then .error .tooLarge else readDigits limit (10 * n + d) cs

/-- Reads a number up to and including `limit`. -/
def readNatural (limit : Nat) : List Char → Except NaturalFault Nat
  | [] => .error .empty
  | '+' :: cs => if cs.isEmpty then .error .invalidDigit else readDigits limit 0 cs
  | cs => readDigits limit 0 cs

/-- Reads a 32-bit number. -/
def readUInt32 (cs : List Char) : Except NaturalFault UInt32 :=
  (readNatural (UInt32.size - 1) cs).map UInt32.ofNat

/-- Reads a 64-bit number. -/
def readUInt64 (cs : List Char) : Except NaturalFault UInt64 :=
  (readNatural (UInt64.size - 1) cs).map UInt64.ofNat

end SqlReplay.Text
