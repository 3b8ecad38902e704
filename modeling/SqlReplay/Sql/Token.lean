import SqlReplay.Sql.Value

/-!
# Tokens of the query language

Space and comments separate tokens and are dropped. Text that begins no token becomes an illegal
token of its own, so that the fault is noticed where the reader of statements meets it. The end of
a text is its first NUL character, if it has one.
-/

namespace SqlReplay.Sql

/-- What a stretch of text is. -/
inductive TokenKind
  /-- Space or a comment. -/
  | blank
  /-- A name or keyword as it stands. -/
  | word
  /-- A name in double quotes, which may also serve as a text. -/
  | quoted
  /-- A name in brackets or backquotes. -/
  | bracketed
  | text
  | blob
  | integer
  | hexadecimal
  | real
  | parameter
  | symbol
  | illegal
deriving DecidableEq, Inhabited

/-- A token with the byte at which it begins. -/
structure Token where
  kind : TokenKind
  lexeme : List Char
  offset : Nat
deriving DecidableEq, Inhabited

/-- Whether a name can begin with the character. -/
def isWordStart (c : Char) : Bool := c.isAlpha || c = '_' || 0x80 ≤ c.toNat

/-- Whether a name can go on with the character. -/
def isWordChar (c : Char) : Bool := isWordStart c || c.isDigit || c = '$'

/-- Whether a character is a hexadecimal digit. -/
def isHexDigit (c : Char) : Bool := (Text.hexValue? c).isSome

/-- The length of a quoted stretch after its opening quote, the closing quote included. A doubled
quote stands for itself. -/
def quotedLength? (q : Char) : List Char → Option Nat
  | [] => none
  | [c] => if c = q then some 1 else none
  | c :: d :: cs =>
    if c = q then if d = q then (quotedLength? q cs).map (· + 2) else some 1
    else (quotedLength? q (d :: cs)).map (· + 1)

/-- The length of a comment after its opening, the closing included if there is one. -/
def commentLength : List Char → Nat
  | [] => 0
  | [_] => 1
  | c :: d :: cs => if c = '*' && d = '/' then 2 else 1 + commentLength (d :: cs)

/-- The number of leading characters with a property. -/
def runLength (p : Char → Bool) (cs : List Char) : Nat := (cs.takeWhile p).length

/-- The length of an exponent at the beginning of a text, zero if there is none. -/
def exponentLength : List Char → Nat
  | e :: cs =>
    if e = 'e' ∨ e = 'E' then
      match cs with
      | s :: more =>
        if s = '+' ∨ s = '-' then
          let n := runLength Char.isDigit more
          if n = 0 then 0 else 2 + n
        else
          let n := runLength Char.isDigit cs
          if n = 0 then 0 else 1 + n
      | [] => 0
    else 0
  | [] => 0

/-- A number, and whatever name characters are glued to it. -/
def numberLexeme (cs : List Char) : TokenKind × Nat :=
  let glue (kind : TokenKind) (n : Nat) : TokenKind × Nat :=
    let extra := runLength isWordChar (cs.drop n)
    if extra = 0 then (kind, n) else (.illegal, n + extra)
  match cs with
  | '0' :: x :: h :: rest =>
    if (x = 'x' ∨ x = 'X') ∧ isHexDigit h then glue .hexadecimal (3 + runLength isHexDigit rest)
    else decimal cs glue
  | _ => decimal cs glue
where
  /-- A decimal number: digits, a fraction, an exponent. -/
  decimal (cs : List Char) (glue : TokenKind → Nat → TokenKind × Nat) : TokenKind × Nat :=
    let whole := runLength Char.isDigit cs
    let fraction := match cs.drop whole with
      | '.' :: rest => 1 + runLength Char.isDigit rest
      | _ => 0
    let exponent := exponentLength (cs.drop (whole + fraction))
    let kind := if fraction = 0 && exponent = 0 then TokenKind.integer else .real
    glue kind (whole + fraction + exponent)

/-- A blob after its `x`, or an illegal token. -/
def blobLexeme (cs : List Char) : TokenKind × Nat :=
  let body := cs.drop 2
  let n := runLength isHexDigit body
  match body.drop n with
  | '\'' :: _ => if n % 2 = 0 then (.blob, 3 + n) else (.illegal, 3 + n)
  | rest =>
    let more := runLength (· ≠ '\'') rest
    (.illegal, 2 + n + more + (if (rest.drop more).isEmpty then 0 else 1))

/-- The arguments that end the name of a parameter, after their parenthesis.  They have no space. -/
def argumentsLexeme (cs : List Char) : TokenKind × Nat :=
  let n := runLength (fun c => !isSqlSpace c && c ≠ ')') cs
  if (cs.drop n).head? = some ')' then (.parameter, n + 1) else (.illegal, n)

/-- A parameter after its sign; `named` tells whether some of its name has been read. -/
def parameterLexeme (named : Bool) : List Char → TokenKind × Nat
  | ':' :: ':' :: cs => (parameterLexeme named cs).map id (· + 2)
  | c :: cs =>
    if isWordChar c then (parameterLexeme true cs).map id (· + 1)
    else if c = '(' && named then (argumentsLexeme cs).map id (· + 1)
    else (if named then .parameter else .illegal, 0)
  | [] => (if named then .parameter else .illegal, 0)

/-- The kind and length of what a non-empty text begins with. -/
def lexemeAt (cs : List Char) : TokenKind × Nat :=
  let quotedAs (kind : TokenKind) (q : Char) (rest : List Char) : TokenKind × Nat :=
    match quotedLength? q rest with
    | some n => (kind, n + 1)
    | none => (.illegal, rest.length + 1)
  match cs with
  | [] => (.blank, 0)
  | '\uFEFF' :: _ => (.blank, 1)
  | '-' :: '-' :: rest => (.blank, 2 + runLength (· ≠ '\n') rest)
  | '/' :: '*' :: c :: rest => (.blank, 2 + commentLength (c :: rest))
  | '\'' :: rest => quotedAs .text '\'' rest
  | '"' :: rest => quotedAs .quoted '"' rest
  | '`' :: rest => quotedAs .bracketed '`' rest
  | '[' :: rest =>
    let n := runLength (· ≠ ']') rest
    if n < rest.length then (.bracketed, n + 2) else (.illegal, n + 1)
  | '=' :: '=' :: _ => (.symbol, 2)
  | '<' :: '=' :: _ => (.symbol, 2)
  | '<' :: '>' :: _ => (.symbol, 2)
  | '<' :: '<' :: _ => (.symbol, 2)
  | '>' :: '=' :: _ => (.symbol, 2)
  | '>' :: '>' :: _ => (.symbol, 2)
  | '!' :: '=' :: _ => (.symbol, 2)
  | '|' :: '|' :: _ => (.symbol, 2)
  | '-' :: '>' :: '>' :: _ => (.symbol, 3)
  | '-' :: '>' :: _ => (.symbol, 2)
  | '?' :: rest => (.parameter, 1 + runLength Char.isDigit rest)
  | c :: rest =>
    if isSqlSpace c && c ≠ '\x0b' then (.blank, 1 + runLength isSqlSpace rest)
    else if c.isDigit then numberLexeme cs
    else if c = '.' && (rest.head?.map Char.isDigit).getD false then numberLexeme cs
    else if (c = 'x' || c = 'X') && rest.head? = some '\'' then blobLexeme cs
    else if isWordStart c then (.word, 1 + runLength isWordChar rest)
    else if "-()*+,./;<=>|&~%".toList.contains c then (.symbol, 1)
    else if "$@:#".toList.contains c then (parameterLexeme false rest).map id (· + 1)
    else (.illegal, 1)

/-- The tokens of a text that begins at byte `offset`; `fuel` bounds their number. -/
def scanFrom : Nat → Nat → List Char → List Token
  | 0, _, _ => []
  | _ + 1, _, [] => []
  | fuel + 1, offset, cs =>
    let (kind, n) := lexemeAt cs
    let lexeme := cs.take (max n 1)
    let rest := scanFrom fuel (offset + (Utf8.encode lexeme).length) (cs.drop (max n 1))
    if kind = .blank then rest else ⟨kind, lexeme, offset⟩ :: rest

/-- The tokens of a text. -/
def scan (cs : List Char) : List Token :=
  let cs := cs.takeWhile (· ≠ '\x00')
  scanFrom cs.length 0 cs

namespace Token

/-- The token as written. -/
def spelling (t : Token) : String := String.ofList t.lexeme

/-- Whether the token is the given symbol. -/
def isSymbol (t : Token) (s : String) : Bool := t.kind = .symbol && t.lexeme = s.toList

/-- Whether the token is the given keyword, in upper case, in whichever case it is written. -/
def isKeyword (t : Token) (keyword : String) : Bool :=
  t.kind = .word && t.lexeme.map Char.toUpper = keyword.toList

/-- A quoted stretch without its quotes, doubled quotes halved. -/
def unquote (q : Char) : List Char → List Char
  | [] => []
  | [c] => if c = q then [] else [c]
  | c :: d :: cs =>
    if c = q && d = q then q :: unquote q cs
    else if c = q then []
    else c :: unquote q (d :: cs)

/-- What a quoted token stands for. -/
def content (t : Token) : String :=
  match t.lexeme with
  | [] => ""
  | '[' :: rest => String.ofList (rest.takeWhile (· ≠ ']'))
  | q :: rest => String.ofList (unquote q rest)

end Token

end SqlReplay.Sql
