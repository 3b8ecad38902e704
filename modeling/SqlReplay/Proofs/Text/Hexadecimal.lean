import Mathlib.Algebra.Group.Nat.Defs
import SqlReplay.Document.Toml.Lexeme
import SqlReplay.Text.Hexadecimal

/-!
# Hexadecimal digits

A number is written with as many digits as were asked for (`length_hexDigits`), each of which stands
for a value below sixteen (`exists_of_mem_hexDigits`) and is read as that value
(`hexValue?_hexDigit`).  Read together, in either case, they are what so many digits can tell of the
number (`hexNumber?_map_hexDigits`).
-/

namespace SqlReplay

namespace Text

theorem hexValue?_hexDigit {n : Nat} (h : n < 16) : hexValue? (hexDigit n) = some n := by
  have hall : ∀ n < 16, hexValue? (hexDigit n) = some n := by decide
  exact hall n h

theorem length_hexDigits (width n : Nat) : (hexDigits width n).length = width := by
  induction width generalizing n with
  | zero => rfl
  | succ width ih => rw [hexDigits, List.length_append, ih, List.length_singleton]

theorem exists_of_mem_hexDigits {width n : Nat} {c : Char} (h : c ∈ hexDigits width n) :
    ∃ m < 16, c = hexDigit m := by
  induction width generalizing n with
  | zero => cases h
  | succ width ih =>
    rcases List.mem_append.1 h with h | h
    · exact ih h
    · exact ⟨n % 16, Nat.mod_lt n (by decide), List.mem_singleton.1 h⟩

end Text

/-- Digits, however each is spelled, are read as what the number leaves when it is divided by their
place value. -/
theorem Toml.hexNumber?_map_hexDigits {f : Char → Char}
    (hf : ∀ m < 16, Text.hexValue? (f (Text.hexDigit m)) = some m) (width n : ℕ) :
    hexNumber? ((Text.hexDigits width n).map f) = some (n % 16 ^ width) := by
  induction width generalizing n with
  | zero => simp [Text.hexDigits, hexNumber?, Nat.mod_one]
  | succ width ih =>
    have hvalue : n % 16 ^ (width + 1) = 16 * (n / 16 % 16 ^ width) + n % 16 := by
      rw [Nat.pow_succ', Nat.mod_mul, Nat.add_comm]
    have hread := ih (n / 16)
    unfold hexNumber? at hread ⊢
    rw [Text.hexDigits, List.map_append, List.foldlM_append, hread, hvalue]
    simp [hf _ (Nat.mod_lt n (by decide : 16 > 0))]

end SqlReplay
