/-!
# Splitting and searching texts
-/

namespace SqlReplay.Text

/-- The parts before and after the first occurrence of a character. -/
def splitFirst? (d : Char) : List Char → Option (List Char × List Char)
  | [] => none
  | c :: cs =>
    if c = d then some ([], cs)
    else (splitFirst? d cs).map fun (before, after) => (c :: before, after)

/-- The parts before and after the last occurrence of a character. -/
def splitLast? (d : Char) (cs : List Char) : Option (List Char × List Char) :=
  (splitFirst? d cs.reverse).map fun (after, before) => (before.reverse, after.reverse)

/-- Whether one text occurs inside another. -/
def occursIn (needle : List Char) : List Char → Bool
  | [] => needle.isEmpty
  | c :: cs => needle.isPrefixOf (c :: cs) || occursIn needle cs

end SqlReplay.Text
