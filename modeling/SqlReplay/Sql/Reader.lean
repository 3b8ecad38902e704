import SqlReplay.Sql.Error
import SqlReplay.Sql.Statement
import SqlReplay.Sql.Token

/-!
# Reading a statement

Statements are read from the front of a token list. A text is refused at the first token that no
statement with the tokens before it could have; where the tokens run out instead, the input is
incomplete. A table that exists already is noticed while it is being declared, before whatever
follows its name in the text.
-/

namespace SqlReplay.Sql

/-- A reader takes what it needs from the front of the tokens. -/
abbrev Reader (α : Type) := List Token → Except Error (α × List Token)

/-- The failure to go on at the first of the given tokens. -/
def stuckAt : List Token → Error
  | [] => .incomplete
  | t :: _ =>
    if t.kind = .illegal then .unrecognized t.spelling t.offset
    else .syntaxNear t.spelling t.offset

/-- The keywords that cannot serve as names. -/
def reservedWords : List String := [
  "ADD", "ALL", "ALTER", "AND", "AS", "AUTOINCREMENT", "BETWEEN", "CASE", "CHECK", "COLLATE",
  "COMMIT", "CONSTRAINT", "CREATE", "DEFAULT", "DEFERRABLE", "DELETE", "DISTINCT", "DROP", "ELSE",
  "ESCAPE", "EXCEPT", "EXISTS", "FOREIGN", "FROM", "GROUP", "HAVING", "IN", "INDEX", "INSERT",
  "INTERSECT", "INTO", "IS", "ISNULL", "JOIN", "LIMIT", "NOT", "NOTHING", "NOTNULL", "NULL", "ON",
  "OR", "ORDER", "PRIMARY", "REFERENCES", "RETURNING", "SELECT", "SET", "TABLE", "THEN", "TO",
  "TRANSACTION", "UNION", "UNIQUE", "UPDATE", "USING", "VALUES", "WHEN", "WHERE"]

/-- Whether a token is a word that can serve as a name. -/
def Token.isPlainName (t : Token) : Bool :=
  t.kind = .word && !reservedWords.contains (String.ofList (t.lexeme.map Char.toUpper))

/-- The name that a token stands for, if it can stand for one. -/
def Token.name? (t : Token) : Option String :=
  match t.kind with
  | .word => if t.isPlainName then some t.spelling else none
  | .quoted => some t.content
  | .bracketed => some t.content
  | .text => some t.content
  | _ => none

/-- Whether the tokens begin with a keyword. -/
def startsWithKeyword (keyword : String) : List Token → Bool
  | t :: _ => t.isKeyword keyword
  | [] => false

/-- Whether the tokens begin with a symbol. -/
def startsWithSymbol (symbol : String) : List Token → Bool
  | t :: _ => t.isSymbol symbol
  | [] => false

/-- Reads a keyword. -/
def keyword (word : String) : Reader Unit := fun ts =>
  if startsWithKeyword word ts then .ok ((), ts.tail) else .error (stuckAt ts)

/-- Reads a symbol. -/
def symbol (s : String) : Reader Unit := fun ts =>
  if startsWithSymbol s ts then .ok ((), ts.tail) else .error (stuckAt ts)

/-- Reads a keyword if it comes next. -/
def optionalKeyword (word : String) (ts : List Token) : Bool × List Token :=
  if startsWithKeyword word ts then (true, ts.tail) else (false, ts)

/-- Reads a name. -/
def readName : Reader String := fun ts =>
  match ts with
  | t :: rest => match t.name? with
    | some name => .ok (name, rest)
    | none => .error (stuckAt ts)
  | [] => .error .incomplete

/-- Reads a table name, with or without the database it is in. -/
def readTableName : Reader TableName := fun ts => do
  let offsetAt (ts : List Token) : Nat := (ts.head?.map Token.offset).getD 0
  let start := offsetAt ts
  let (first, ts) ← readName ts
  if startsWithSymbol "." ts then
    let (second, rest) ← readName ts.tail
    return (⟨some first, second, start, offsetAt ts.tail⟩, rest)
  else return (⟨none, first, start, start⟩, ts)

/-! ## Expressions -/

/-- The value of a hexadecimal number of at most sixteen digits, as a signed 64-bit number. -/
def hexadecimalValue (lexeme : List Char) : Value :=
  let digits : Nat := (lexeme.drop 2).foldl (fun n c => 16 * n + (Text.hexValue? c).getD 0) 0
  let n := digits % UInt64.size
  .integer (if n < UInt64.size / 2 then n else (n : Int) - (UInt64.size : Nat))

/-- The bytes that pairs of hexadecimal digits denote. -/
def hexadecimalBytes : List Char → Bytes
  | a :: b :: cs =>
    UInt8.ofNat ((Text.hexValue? a).getD 0 * 16 + (Text.hexValue? b).getD 0) :: hexadecimalBytes cs
  | _ => []

/-- The value of a token that is a literal. -/
def Token.literal? (t : Token) : Option Value :=
  match t.kind with
  | .integer => (Numeral.read? t.lexeme).map fun n => n.1.value false
  | .real => (Numeral.read? t.lexeme).map fun n => n.1.value false
  | .hexadecimal => some (hexadecimalValue t.lexeme)
  | .text => some (.text t.content)
  | .blob => some (.blob (hexadecimalBytes ((t.lexeme.drop 2).filter isHexDigit)))
  | .parameter => some .null
  | .word => if t.isKeyword "NULL" then some .null else none
  | _ => none

/-- Reads an expression; `fuel` bounds its depth. -/
def readExpr : Nat → Reader Expr
  | 0, ts => .error (stuckAt ts)
  | fuel + 1, ts =>
    match ts with
    | [] => .error .incomplete
    | t :: rest =>
      if t.isSymbol "-" then
        match rest with
        | u :: more =>
          if u.kind = .integer then
            match Numeral.read? u.lexeme with
            | some (n, _) => .ok (.literal (n.value true), more)
            | none => .error (stuckAt rest)
          else do
            let (e, rest) ← readExpr fuel rest
            return (.negate e, rest)
        | [] => .error .incomplete
      else if t.isSymbol "+" then readExpr fuel rest
      else if t.isSymbol "(" then do
        let (e, rest) ← readExpr fuel rest
        let ((), rest) ← symbol ")" rest
        return (e, rest)
      else match t.literal? with
        | some v => .ok (.literal v, rest)
        | none => do
          let (first, after) ← readName ts
          if startsWithSymbol "." after then
            let (second, after) ← readName after.tail
            return (.column (some first) second false t.offset, after)
          else return (.column none first (t.kind = .quoted) t.offset, after)

/-- Reads one or more items between commas; `fuel` bounds their number. -/
def commaList {α : Type} (item : Reader α) : Nat → Reader (List α)
  | 0, ts => .error (stuckAt ts)
  | fuel + 1, ts => do
    let (a, ts) ← item ts
    if startsWithSymbol "," ts then
      let (rest, ts) ← commaList item fuel ts.tail
      return (a :: rest, ts)
    else return ([a], ts)

/-- Reads one or more expressions between commas. -/
def readExprs : Reader (List Expr) := fun ts => commaList (readExpr ts.length) ts.length ts

/-- Reads one or more names between commas. -/
def readNames : Reader (List String) := fun ts => commaList readName ts.length ts

/-! ## Table declarations -/

/-- Whether a token can stand in a type name. -/
def Token.isTypeWord (t : Token) : Bool :=
  match t.kind with
  | .word => t.isPlainName && !t.isKeyword "GENERATED"
  | .quoted => true
  | .bracketed => true
  | .text => true
  | _ => false

/-- Reads a number with or without sign. -/
def readSigned : Reader Unit := fun ts =>
  let ts := match ts with
    | t :: rest => if t.isSymbol "+" || t.isSymbol "-" then rest else ts
    | [] => ts
  match ts with
  | t :: rest =>
    if t.kind = .integer || t.kind = .real || t.kind = .hexadecimal then .ok ((), rest)
    else .error (stuckAt ts)
  | [] => .error .incomplete

/-- Reads a possibly empty type: words, then one or two numbers in parentheses or none. -/
def readType : Reader String := fun ts => do
  let words := ts.takeWhile Token.isTypeWord
  let rest := ts.drop words.length
  let name := String.ofList (" ".toList.intercalate (words.map fun t =>
    if t.kind = .word then t.lexeme else t.content.toList))
  if !words.isEmpty && startsWithSymbol "(" rest then
    let ((), rest) ← readSigned rest.tail
    let rest ← if startsWithSymbol "," rest then
        let ((), rest) ← readSigned rest.tail
        pure rest
      else pure rest
    let ((), rest) ← symbol ")" rest
    return (name, rest)
  else return (name, rest)

/-- The keywords that begin a column constraint of the language. -/
def constraintWords : List String := ["PRIMARY", "NOT", "NULL", "UNIQUE"]

/-- Whether a column declaration can go on or end at the given tokens. -/
def declarationGoesOn (ts : List Token) : Bool :=
  startsWithSymbol "," ts || startsWithSymbol ")" ts || constraintWords.any (startsWithKeyword · ts)

/-- A column while its constraints are read. -/
structure Declared where
  column : Column
  declaredType : String
  isPrimaryKey : Bool

/-- Reads constraints up to the end of a column; `fuel` bounds their number. `keyed` tells whether
the table has a primary key already. -/
def readConstraints (table : String) (keyed : Bool) : Nat → Declared → Reader Declared
  | 0, _, ts => .error (stuckAt ts)
  | fuel + 1, d, ts =>
    if startsWithKeyword "PRIMARY" ts then do
      let ((), ts) ← keyword "KEY" ts.tail
      let (descending, ts) := optionalKeyword "DESC" ts
      let (_, ts) := if descending then (true, ts) else optionalKeyword "ASC" ts
      let (_, ts) := optionalKeyword "AUTOINCREMENT" ts
      if !declarationGoesOn ts then throw (stuckAt ts)
      else if keyed || d.isPrimaryKey then throw (.secondPrimaryKey table)
      else
        let rowNumber := d.declaredType.toList.map Char.toUpper = "INTEGER".toList && !descending
        let column := { d.column with unique := true, isRowNumber := rowNumber }
        readConstraints table keyed fuel { d with column := column, isPrimaryKey := true } ts
    else if startsWithKeyword "NOT" ts then do
      let ((), ts) ← keyword "NULL" ts.tail
      readConstraints table keyed fuel { d with column := { d.column with notNull := true } } ts
    else if startsWithKeyword "NULL" ts then readConstraints table keyed fuel d ts.tail
    else if startsWithKeyword "UNIQUE" ts then
      readConstraints table keyed fuel { d with column := { d.column with unique := true } } ts.tail
    else if startsWithSymbol "," ts || startsWithSymbol ")" ts then .ok (d, ts)
    else .error (stuckAt ts)

/-- Reads columns up to and including the closing parenthesis; `fuel` bounds their number. -/
def readColumns (table : String) (keyed : Bool) (seen : List String) : Nat → Reader (List Column)
  | 0, ts => .error (stuckAt ts)
  | fuel + 1, ts => do
    let (name, ts) ← readName ts
    let (declaredType, ts) ← readType ts
    if !declarationGoesOn ts then throw (stuckAt ts)
    else if seen.any (sameName name) then throw (.duplicateColumn name)
    else
      let column : Column := ⟨name, Affinity.ofDeclared declaredType, false, false, false⟩
      let (d, ts) ← readConstraints table keyed ts.length ⟨column, declaredType, false⟩ ts
      if startsWithSymbol "," ts then
        let (columns, ts) ← readColumns table (keyed || d.isPrimaryKey) (name :: seen) fuel ts.tail
        return (d.column :: columns, ts)
      else return ([d.column], ts.tail)

/-- Whether a statement can end at the given tokens. -/
def atEnd (ts : List Token) : Bool := ts.isEmpty || startsWithSymbol ";" ts

/-- Reads a table declaration after `CREATE TABLE`; `present` tells which tables exist. -/
def readCreate (present : String → Bool) : Reader Statement := fun ts => do
  let (ifAbsent, ts) ← if startsWithKeyword "IF" ts then do
      let ((), ts) ← keyword "NOT" ts.tail
      let ((), ts) ← keyword "EXISTS" ts
      pure (true, ts)
    else pure (false, ts)
  let (table, ts) ← readTableName ts
  let ((), ts) ← symbol "(" ts
  let foreign := match table.schema with
    | some s => !sameName s "main"
    | none => false
  if foreign then throw (.unknownDatabase (table.schema.getD "") table.start)
  else if "sqlite_".toList.isPrefixOf (table.name.toList.map Char.toLower) then
    throw (.reservedName table.name)
  else if present table.name && !ifAbsent then throw (.tableExists table.name table.offset)
  else
    let (columns, ts) ← readColumns table.name false [] ts.length ts
    match ts with
    | t :: rest =>
      if (t.isPlainName || t.kind = .quoted || t.kind = .bracketed || t.kind = .text) &&
          (atEnd rest || startsWithSymbol "," rest) then
        if t.isKeyword "STRICT" then return (.createTable ifAbsent table columns, rest)
        else throw (.unknownTableOption t.spelling)
      else return (.createTable ifAbsent table columns, ts)
    | [] => return (.createTable ifAbsent table columns, ts)

/-! ## The other statements -/

/-- Reads the rows of an insertion, each in parentheses; `width` is the size of the row before.
`fuel` bounds their number. -/
def readRows (width : Option Nat) : Nat → Reader (List (List Expr))
  | 0, ts => .error (stuckAt ts)
  | fuel + 1, ts => do
    let ((), ts) ← symbol "(" ts
    let (row, ts) ← readExprs ts
    let ((), ts) ← symbol ")" ts
    let uneven := width.any (· ≠ row.length)
    if startsWithSymbol "," ts then
      if uneven then throw .unequalRows
      else
        let (rows, ts) ← readRows (some row.length) fuel ts.tail
        return (row :: rows, ts)
    else if uneven && atEnd ts then throw .unequalRows
    else return ([row], ts)

/-- Reads an insertion after `INSERT`. -/
def readInsert : Reader Statement := fun ts => do
  let ((), ts) ← keyword "INTO" ts
  let (table, ts) ← readTableName ts
  let (columns, ts) ← if startsWithSymbol "(" ts then do
      let (names, ts) ← readNames ts.tail
      let ((), ts) ← symbol ")" ts
      pure (some names, ts)
    else pure (none, ts)
  let ((), ts) ← keyword "VALUES" ts
  let (rows, ts) ← readRows none ts.length ts
  return (.insert table columns rows, ts)

/-- Reads an entry of a result list. -/
def readResultItem : Reader ResultItem := fun ts =>
  if startsWithSymbol "*" ts then .ok (.all, ts.tail)
  else do
    let (e, ts) ← readExpr ts.length ts
    if startsWithKeyword "AS" ts then
      let (_, ts) ← readName ts.tail
      return (.expr e, ts)
    else match ts with
      | t :: rest => if (t.name?).isSome then return (.expr e, rest) else return (.expr e, ts)
      | [] => return (.expr e, ts)

/-- Reads a query after `SELECT`. -/
def readSelect : Reader Statement := fun ts => do
  let (distinct, ts) := optionalKeyword "DISTINCT" ts
  let (_, ts) := if distinct then (true, ts) else optionalKeyword "ALL" ts
  let (items, ts) ← commaList readResultItem ts.length ts
  if startsWithKeyword "FROM" ts then
    let (table, ts) ← readTableName ts.tail
    if startsWithKeyword "AS" ts then
      let (_, ts) ← readName ts.tail
      return (.select items (some table), ts)
    else return (.select items (some table), ts)
  else return (.select items none, ts)

/-- Reads `column = expression`. -/
def readAssignment : Reader (String × Expr) := fun ts => do
  let (name, ts) ← readName ts
  let ((), ts) ← symbol "=" ts
  let (e, ts) ← readExpr ts.length ts
  return ((name, e), ts)

/-- Reads a change after `UPDATE`. -/
def readUpdate : Reader Statement := fun ts => do
  let (table, ts) ← readTableName ts
  let ((), ts) ← keyword "SET" ts
  let (assignments, ts) ← commaList readAssignment ts.length ts
  return (.update table assignments, ts)

/-- Reads the optional word `TRANSACTION` and the optional name after it. -/
def readTransactionWord (ts : List Token) : List Token :=
  let (present, ts) := optionalKeyword "TRANSACTION" ts
  match present, ts with
  | true, t :: rest => if (t.name?).isSome then rest else ts
  | _, _ => ts

/-- Reads the beginning of a transaction after `BEGIN`. -/
def readBegin (ts : List Token) : Statement × List Token :=
  let (mode, ts) :=
    if startsWithKeyword "DEFERRED" ts then (BeginMode.deferred, ts.tail)
    else if startsWithKeyword "IMMEDIATE" ts then (.immediate, ts.tail)
    else if startsWithKeyword "EXCLUSIVE" ts then (.exclusive, ts.tail)
    else (.deferred, ts)
  (.begin mode, readTransactionWord ts)

/-- Reads the value of a setting: a number with or without sign, or a word. -/
def readSetting : Reader (Option Int) := fun ts =>
  match ts with
  | [] => .error .incomplete
  | t :: rest =>
    let signed := t.isSymbol "-" || t.isSymbol "+"
    let number := if signed then rest else ts
    match number with
    | u :: more =>
      if u.kind = .integer || u.kind = .real || u.kind = .hexadecimal then
        match u.literal? with
        | some (.integer n) => .ok (some (if t.isSymbol "-" then -n else n), more)
        | _ => .ok (none, more)
      else if signed then .error (stuckAt number)
      else if (u.name?).isSome || ["ON", "DELETE", "DEFAULT"].any u.isKeyword then .ok (none, more)
      else .error (stuckAt number)
    | [] => .error .incomplete

/-- Reads a setting after `PRAGMA`. -/
def readPragma : Reader Statement := fun ts => do
  let (name, ts) ← readTableName ts
  if startsWithSymbol "=" ts then
    let (value, ts) ← readSetting ts.tail
    return (.pragma name.name value, ts)
  else if startsWithSymbol "(" ts then
    let (value, ts) ← readSetting ts.tail
    let ((), ts) ← symbol ")" ts
    return (.pragma name.name value, ts)
  else return (.pragma name.name none, ts)

/-- Reads an attachment after `ATTACH`. -/
def readAttach : Reader Statement := fun ts => do
  let (_, ts) := optionalKeyword "DATABASE" ts
  let (file, ts) ← readExpr ts.length ts
  let ((), ts) ← keyword "AS" ts
  let (name, ts) ← readExpr ts.length ts
  return (.attach file name, ts)

/-- Reads a statement up to where it could end. -/
def readStatement (present : String → Bool) : Reader Statement := fun ts =>
  match ts with
  | [] => .error .incomplete
  | t :: rest =>
    if t.isKeyword "CREATE" then do
      let ((), rest) ← keyword "TABLE" rest
      readCreate present rest
    else if t.isKeyword "DROP" then do
      let ((), rest) ← keyword "TABLE" rest
      let (ifPresent, rest) ← if startsWithKeyword "IF" rest then do
          let ((), rest) ← keyword "EXISTS" rest.tail
          pure (true, rest)
        else pure (false, rest)
      let (table, rest) ← readTableName rest
      return (.dropTable ifPresent table, rest)
    else if t.isKeyword "INSERT" then readInsert rest
    else if t.isKeyword "SELECT" then readSelect rest
    else if t.isKeyword "UPDATE" then readUpdate rest
    else if t.isKeyword "DELETE" then do
      let ((), rest) ← keyword "FROM" rest
      let (table, rest) ← readTableName rest
      return (.delete table, rest)
    else if t.isKeyword "BEGIN" then .ok (readBegin rest)
    else if t.isKeyword "COMMIT" || t.isKeyword "END" then
      .ok (.commit, readTransactionWord rest)
    else if t.isKeyword "ROLLBACK" then .ok (.rollback, readTransactionWord rest)
    else if t.isKeyword "PRAGMA" then readPragma rest
    else if t.isKeyword "ATTACH" then readAttach rest
    else .error (stuckAt ts)

/-- Drops terminators from the front of the tokens. -/
def skipTerminators (ts : List Token) : List Token := ts.dropWhile (·.isSymbol ";")

/-- Reads the first statement of a line, if it has one, and the tokens after its terminator. -/
def readFirst (present : String → Bool) (ts : List Token) :
    Except Error (Option (Statement × List Token)) :=
  match skipTerminators ts with
  | [] => .ok none
  | ts => do
    let (statement, rest) ← readStatement present ts
    if atEnd rest then return some (statement, rest.tail) else throw (stuckAt rest)

end SqlReplay.Sql
