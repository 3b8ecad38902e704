import SqlReplay.Document.JsonReader

/-!
# Lexemes of TOML

Strings in their four forms, numbers, dates and times, and the space between them.
-/

namespace SqlReplay.Toml

/-- Whether a character may stand in a comment or a string that is not escaped. -/
def isPlain (c : Char) : Bool := c = '\t' || (0x20 ≤ c.toNat && c.toNat ≠ 0x7F)

/-- The text after spaces and tabs. -/
def skipBlanks (cs : List Char) : List Char := cs.dropWhile fun c => c = ' ' || c = '\t'

/-- The text after a line ending, if it begins with one. -/
def afterNewline? : List Char → Option (List Char)
  | '\n' :: cs => some cs
  | '\r' :: '\n' :: cs => some cs
  | _ => none

/-- The text from the end of the line on, a comment before it passed over. -/
def skipComment (cs : List Char) : List Char :=
  match cs with
  | '#' :: cs => cs.dropWhile isPlain
  | cs => cs

/-- The text after the rest of a line, which may hold blanks and a comment. -/
def afterLine? (cs : List Char) : Option (List Char) :=
  match skipComment (skipBlanks cs) with
  | [] => some []
  | cs => afterNewline? cs

/-- The text after blanks, comments and line endings; `fuel` bounds their number. -/
def skipLines : Nat → List Char → List Char
  | 0, cs => cs
  | fuel + 1, cs =>
    match skipComment (skipBlanks cs) with
    | [] => []
    | cs => match afterNewline? cs with
      | some rest => skipLines fuel rest
      | none => cs

/-! ## Strings -/

/-- The number that hexadecimal digits denote, if all are digits. -/
def hexNumber? (cs : List Char) : Option Nat :=
  cs.foldlM (fun n c => (Text.hexValue? c).map (16 * n + ·)) 0

/-- The character with the given number, if there is one. -/
def character? (n : Nat) : Option Char :=
  if n < 0xD800 ∨ (0xDFFF < n ∧ n < 0x110000) then some (Char.ofNat n) else none

/-- Reads an escape after its backslash. -/
def readEscape? (cs : List Char) : Option (Char × List Char) :=
  match cs with
  | 'b' :: cs => some ('\x08', cs)
  | 't' :: cs => some ('\t', cs)
  | 'n' :: cs => some ('\n', cs)
  | 'f' :: cs => some ('\x0c', cs)
  | 'r' :: cs => some ('\r', cs)
  | '"' :: cs => some ('"', cs)
  | '\\' :: cs => some ('\\', cs)
  | 'u' :: cs =>
    if cs.length < 4 then none
    else ((hexNumber? (cs.take 4)).bind character?).map (·, cs.drop 4)
  | 'U' :: cs =>
    if cs.length < 8 then none
    else ((hexNumber? (cs.take 8)).bind character?).map (·, cs.drop 8)
  | _ => none

/-- Reads a string of one line after its opening quote; `fuel` bounds its length. -/
def readBasic : Nat → List Char → Option (List Char × List Char)
  | 0, _ => none
  | fuel + 1, cs =>
    match cs with
    | [] => none
    | '"' :: cs => some ([], cs)
    | '\\' :: cs => do
      let (c, cs) ← readEscape? cs
      (readBasic fuel cs).map (Document.push c)
    | c :: cs => if isPlain c then (readBasic fuel cs).map (Document.push c) else none

/-- Reads a literal string of one line after its opening quote. -/
def readLiteral (cs : List Char) : Option (List Char × List Char) :=
  let body := cs.takeWhile fun c => c ≠ '\'' && isPlain c
  match cs.drop body.length with
  | '\'' :: rest => some (body, rest)
  | _ => none

/-- The text after blanks and line endings. -/
def skipFold : List Char → List Char
  | ' ' :: cs => skipFold cs
  | '\t' :: cs => skipFold cs
  | '\n' :: cs => skipFold cs
  | '\r' :: '\n' :: cs => skipFold cs
  | cs => cs

/-- The text after a backslash that ends its line: what follows up to the next character that is
not blank belongs to the line ending. -/
def afterFolded? (cs : List Char) : Option (List Char) :=
  (afterNewline? (skipBlanks cs)).map skipFold

/-- How many copies of a quote a text begins with, counting at most five. -/
def quoteRun (q : Char) (cs : List Char) : Nat := ((cs.take 5).takeWhile (· = q)).length

/-- Reads a string of several lines after its opening quotes; `fuel` bounds its length. -/
def readBasicLines : Nat → List Char → Option (List Char × List Char)
  | 0, _ => none
  | fuel + 1, cs =>
    match cs with
    | [] => none
    | '"' :: rest =>
      let run := quoteRun '"' cs
      if 3 ≤ run then some (List.replicate (run - 3) '"', cs.drop run)
      else (readBasicLines fuel rest).map (Document.push '"')
    | '\\' :: rest =>
      match afterFolded? rest with
      | some rest => readBasicLines fuel rest
      | none => do
        let (c, rest) ← readEscape? rest
        (readBasicLines fuel rest).map (Document.push c)
    | c :: rest =>
      match afterNewline? cs with
      | some rest => (readBasicLines fuel rest).map (Document.push '\n')
      | none => if isPlain c then (readBasicLines fuel rest).map (Document.push c) else none

/-- Reads a literal string of several lines after its opening quotes; `fuel` bounds its length. -/
def readLiteralLines : Nat → List Char → Option (List Char × List Char)
  | 0, _ => none
  | fuel + 1, cs =>
    match cs with
    | [] => none
    | '\'' :: rest =>
      let run := quoteRun '\'' cs
      if 3 ≤ run then some (List.replicate (run - 3) '\'', cs.drop run)
      else (readLiteralLines fuel rest).map (Document.push '\'')
    | c :: rest =>
      match afterNewline? cs with
      | some rest => (readLiteralLines fuel rest).map (Document.push '\n')
      | none => if isPlain c then (readLiteralLines fuel rest).map (Document.push c) else none

/-- The text without the line ending it may begin with. -/
def dropNewline (cs : List Char) : List Char := (afterNewline? cs).getD cs

/-- Reads a string of any form, if the text begins with one. -/
def readText? (cs : List Char) : Option (List Char × List Char) :=
  match cs with
  | '"' :: '"' :: '"' :: cs => readBasicLines (cs.length + 1) (dropNewline cs)
  | '"' :: cs => readBasic (cs.length + 1) cs
  | '\'' :: '\'' :: '\'' :: cs => readLiteralLines (cs.length + 1) (dropNewline cs)
  | '\'' :: cs => readLiteral cs
  | _ => none

/-! ## Numbers, dates and times -/

/-- The digits of a number written with single underscores between digits. -/
def plainDigits? (isDigit : Char → Bool) : List Char → Option (List Char)
  | [] => none
  | [c] => if isDigit c then some [c] else none
  | c :: d :: cs =>
    if isDigit c then
      if d = '_' then (plainDigits? isDigit cs).map (c :: ·)
      else (plainDigits? isDigit (d :: cs)).map (c :: ·)
    else none

/-- Whether digits have a zero in front that does not count. -/
def hasIdleZero : List Char → Bool
  | '0' :: _ :: _ => true
  | _ => false

/-- The node of an integer of 64 bits with sign. -/
def integerNode? (n : Int) : Option Document :=
  if -(UInt64.size / 2 : Nat) ≤ n ∧ n < (UInt64.size / 2 : Nat) then some (.integer n) else none

/-- The value of digits in a base. -/
def valueIn (base : Nat) (cs : List Char) : Nat :=
  cs.foldl (fun n c => base * n + (Text.hexValue? c).getD 0) 0

/-- A sign in front of a number, and the text after it. -/
def splitSign (cs : List Char) : Option Char × List Char :=
  match cs with
  | '+' :: cs => (some '+', cs)
  | '-' :: cs => (some '-', cs)
  | cs => (none, cs)

/-- The integer that a whole text denotes. -/
def integer? (cs : List Char) : Option Document :=
  match cs with
  | '0' :: 'x' :: ds => (plainDigits? (Text.hexValue? · |>.isSome) ds).bind
      fun ds => integerNode? (valueIn 16 ds)
  | '0' :: 'o' :: ds => (plainDigits? (fun c => '0' ≤ c && c ≤ '7') ds).bind
      fun ds => integerNode? (valueIn 8 ds)
  | '0' :: 'b' :: ds => (plainDigits? (fun c => c = '0' || c = '1') ds).bind
      fun ds => integerNode? (valueIn 2 ds)
  | cs =>
    let (sign, ds) := splitSign cs
    match plainDigits? Char.isDigit ds with
    | none => none
    | some ds =>
      if hasIdleZero ds then none
      else integerNode? (if sign = some '-' then -(valueIn 10 ds : Int) else valueIn 10 ds)

/-- Whether a decimal number with the given digits before and after its point is too large for a
real. No exponent beyond a hundred thousand makes a difference. -/
def overflows (whole fraction : List Char) (exponent : Int) : Bool :=
  let digits := valueIn 10 (whole ++ fraction)
  let exponent : Int := max (-100000) (min 100000 exponent) - fraction.length
  if exponent < 0 then (Float.ofScientific digits true exponent.natAbs).isInf
  else (Float.ofScientific digits false exponent.natAbs).isInf

/-- The exponent that digits after a sign denote. -/
def exponentValue (sign : Option Char) (digits : List Char) : Int :=
  if sign = some '-' then -(valueIn 10 digits : Int) else valueIn 10 digits

/-- The real that a whole text denotes. Only a negative one may be too large. -/
def real? (cs : List Char) : Option Document :=
  let (sign, body) := splitSign cs
  if body = "inf".toList ∨ body = "nan".toList then some (.real (String.ofList cs))
  else
    let mantissa := body.takeWhile fun c => c ≠ 'e' && c ≠ 'E'
    let whole := mantissa.takeWhile (· ≠ '.')
    let fraction := match mantissa.drop whole.length with
      | '.' :: ds => plainDigits? Char.isDigit ds
      | _ => some []
    let exponent := match body.drop mantissa.length with
      | _ :: es =>
        let (sign, es) := splitSign es
        (plainDigits? Char.isDigit es).map (exponentValue sign)
      | [] => some 0
    match plainDigits? Char.isDigit whole, fraction, exponent with
    | some wholeDigits, some fraction, some exponent =>
      if hasIdleZero wholeDigits || whole.length = body.length then none
      else if sign ≠ some '-' && overflows wholeDigits fraction exponent then none
      else some (.real (String.ofList cs))
    | _, _, _ => none

/-- The number that exactly two digits denote. -/
def twoDigits? : List Char → Option (Nat × List Char)
  | a :: b :: cs =>
    if a.isDigit && b.isDigit then some ((a.toNat - 48) * 10 + (b.toNat - 48), cs) else none
  | _ => none

/-- The number of days in a month. -/
def daysIn (year month : Nat) : Nat :=
  if month = 2 then
    if year % 4 = 0 ∧ (year % 100 ≠ 0 ∨ year % 400 = 0) then 29 else 28
  else if [4, 6, 9, 11].contains month then 30
  else 31

/-- What follows a date, if the text begins with one. -/
def afterDate? (cs : List Char) : Option (List Char) := do
  let (century, cs) ← twoDigits? cs
  let (year, cs) ← twoDigits? cs
  let cs ← Document.after? ['-'] cs
  let (month, cs) ← twoDigits? cs
  let cs ← Document.after? ['-'] cs
  let (day, cs) ← twoDigits? cs
  if 1 ≤ month ∧ month ≤ 12 ∧ 1 ≤ day ∧ day ≤ daysIn (century * 100 + year) month then some cs
  else none

/-- What follows a time of day, if the text begins with one. -/
def afterTime? (cs : List Char) : Option (List Char) := do
  let (hour, cs) ← twoDigits? cs
  let cs ← Document.after? [':'] cs
  let (minute, cs) ← twoDigits? cs
  let cs ← Document.after? [':'] cs
  let (second, cs) ← twoDigits? cs
  if hour ≤ 23 ∧ minute ≤ 59 ∧ second ≤ 60 then
    match cs with
    | '.' :: more =>
      let rest := more.dropWhile Char.isDigit
      if rest.length < more.length then some rest else none
    | cs => some cs
  else none

/-- What follows an offset from universal time, if the text begins with one. -/
def afterOffset? (cs : List Char) : Option (List Char) :=
  match cs with
  | 'Z' :: cs => some cs
  | 'z' :: cs => some cs
  | s :: cs =>
    if s = '+' ∨ s = '-' then do
      let (hour, cs) ← twoDigits? cs
      let cs ← Document.after? [':'] cs
      let (minute, cs) ← twoDigits? cs
      if hour ≤ 23 ∧ minute ≤ 59 then some cs else none
    else none
  | [] => none

/-- Whether a whole text is a date, a time, or both. -/
def isMoment (cs : List Char) : Bool :=
  match afterDate? cs with
  | some [] => true
  | some (sep :: rest) =>
    if sep = 'T' ∨ sep = 't' ∨ sep = ' ' then
      match afterTime? rest with
      | some [] => true
      | some rest => afterOffset? rest = some []
      | none => false
    else false
  | none => afterTime? cs = some []

/-- The name of the field under which a date or time stands in its node. -/
def momentField : String := "$__toml_private_datetime"

/-- Whether a character can stand in a number, a date, a time or a keyword. -/
def isScalarChar (c : Char) : Bool := c.isAlphanum || "_+-.:".toList.contains c

/-- Reads a value that is neither a string nor a collection. -/
def readScalar? (cs : List Char) : Option (Document × List Char) :=
  let first := cs.takeWhile isScalarChar
  let rest := cs.drop first.length
  let (lexeme, rest) := match afterDate? first, rest with
    | some [], ' ' :: d :: _ =>
      if d.isDigit then
        let time := (rest.drop 1).takeWhile isScalarChar
        (first ++ ' ' :: time, rest.drop (1 + time.length))
      else (first, rest)
    | _, _ => (first, rest)
  if lexeme = "true".toList then some (.flag true, rest)
  else if lexeme = "false".toList then some (.flag false, rest)
  else if isMoment lexeme then
    some (.record [(momentField, .text (String.ofList lexeme))], rest)
  else match integer? lexeme with
    | some d => some (d, rest)
    | none => (real? lexeme).map (·, rest)

end SqlReplay.Toml
