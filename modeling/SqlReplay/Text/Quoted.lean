import SqlReplay.Text.Hidden
import SqlReplay.Text.Hexadecimal

/-!
# Quoted text

A text as messages show it: in double quotes, with the quote, the backslash and the usual controls
escaped by a letter and every other character that does not show written by number.
-/

namespace SqlReplay.Text

/-- One character inside a quoted text. -/
def quoteChar (c : Char) : List Char :=
  match c with
  | '"' => ['\\', '"']
  | '\\' => ['\\', '\\']
  | '\t' => ['\\', 't']
  | '\r' => ['\\', 'r']
  | '\n' => ['\\', 'n']
  | '\x00' => ['\\', '0']
  | c => if isHidden c then '\\' :: 'u' :: '\x7b' :: (hexShort c.toNat ++ ['\x7d']) else [c]

/-- A text in quotes. -/
def quote (cs : List Char) : List Char := '"' :: (cs.flatMap quoteChar ++ ['"'])

/-- `quote` on strings. -/
def quoted (s : String) : String := String.ofList (quote s.toList)

end SqlReplay.Text
