/-!
# Lines of a text

A line ends at a line feed, and one carriage return before the line feed belongs to the ending.
What follows the last line feed is a line if it holds anything; a carriage return at its end stays.
-/

namespace SqlReplay.Text

/-- A line ending in reverse: one carriage return at the front is dropped. -/
def dropReturn : List Char → List Char
  | '\r' :: cs => cs
  | cs => cs

/-- The lines of a text of which `line`, in reverse, has been read already. -/
def linesFrom (line : List Char) : List Char → List (List Char)
  | [] => if line.isEmpty then [] else [line.reverse]
  | c :: cs =>
    if c = '\n' then (dropReturn line).reverse :: linesFrom [] cs else linesFrom (c :: line) cs

/-- The lines of a text. -/
def lines (cs : List Char) : List (List Char) := linesFrom [] cs

/-- Pairs each element with its number, counted from `start`. -/
def numberFrom {α : Type} (start : Nat) : List α → List (Nat × α)
  | [] => []
  | a :: as => (start, a) :: numberFrom (start + 1) as

/-- The lines of a text, numbered from one. -/
def numberedLines (cs : List Char) : List (Nat × List Char) := numberFrom 1 (lines cs)

end SqlReplay.Text
