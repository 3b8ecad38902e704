import SqlReplay.Proofs.Except
import SqlReplay.Proofs.Sql.Placed

/-!
# Reading a statement in a longer text

Each reader of a part of a statement, and so the reader of statements (`alike_readStatement`), makes
of a statement that stands in a longer text what it makes of the statement alone.
-/

namespace SqlReplay.Sql

variable {p : Place} {ts : List Token} {t : Token} {w : String}

/-! ## Table declarations -/

/-- Whether a token is a sign. -/
def Token.isSign (t : Token) : Bool := t.isSymbol "+" || t.isSymbol "-"

theorem isSign_of_terminator (h : t.isSymbol ";" = true) : t.isSign = false := by
  rw [Token.isSign, isSymbol_of_terminator h (by decide), isSymbol_of_terminator h (by decide)]
  rfl

/-- Reads a number without sign. -/
def readNumber : Reader Unit := fun ts =>
  match ts with
  | t :: rest =>
    if t.kind = .integer || t.kind = .real || t.kind = .hexadecimal then .ok ((), rest)
    else .error (stuckAt ts)
  | [] => .error .incomplete

theorem needs_readNumber : Needs readNumber where
  nil := rfl
  terminator h ts := by
    rw [readNumber, kind_of_terminator h]
    rfl

theorem alike_readNumber (hts : Unended ts) :
    Alike p id ts.length (readNumber ts) (readNumber (p.put ts)) := by
  cases ts with
  | nil => exact needs_readNumber.alike needs_readNumber
  | cons t ts =>
    exact .ite (fun _ => .read () hts.of_cons (Nat.le_succ _)) fun _ => alike_stuckAt (t :: ts)

theorem alike_readSigned (hts : Unended ts) :
    Alike p id ts.length (readSigned ts) (readSigned (p.put ts)) := by
  show Alike p id _ (readNumber (skipIf Token.isSign ts))
    (readNumber (skipIf Token.isSign (p.put ts)))
  obtain ⟨hput, hrest, hlength⟩ := skipIf_put (p := p) (fun _ => isSign_of_terminator)
    (fun _ _ => rfl) hts
  rw [hput]
  exact (alike_readNumber hrest).mono hlength

theorem drop_put {n : Nat} (h : n ≤ ts.length) : (p.put ts).drop n = p.put (ts.drop n) := by
  rw [Place.put, List.drop_append_of_le_length (by rwa [List.length_map]), ← List.map_drop]
  rfl

theorem takeWhile_isTypeWord_put : (p.put ts).takeWhile Token.isTypeWord =
    (ts.takeWhile Token.isTypeWord).map (Token.shifted p.start) := by
  have hafter : p.after.takeWhile Token.isTypeWord = [] := by
    rcases after_eq p with hafter | ⟨t, rest, hafter, ht⟩
    · rw [hafter]
      rfl
    · rw [hafter, List.takeWhile_cons_of_neg]
      rw [Token.isTypeWord, kind_of_terminator ht]
      exact Bool.false_ne_true
  induction ts with
  | nil => exact hafter
  | cons t ts ih =>
    show List.takeWhile Token.isTypeWord (t.shifted p.start :: p.put ts) = _
    rw [List.takeWhile_cons, List.takeWhile_cons]
    show (if t.isTypeWord = true then _ else _) = _
    split
    · rw [ih, List.map_cons]
    · rfl

theorem alike_readType (hts : Unended ts) :
    Alike p id ts.length (readType ts) (readType (p.put ts)) := by
  unfold readType
  dsimp only
  rw [takeWhile_isTypeWord_put, List.length_map, drop_put (List.takeWhile_sublist _).length_le,
    List.map_map, List.isEmpty_map]
  have hrest : Unended (ts.drop (ts.takeWhile Token.isTypeWord).length) :=
    fun t ht => hts t (List.mem_of_mem_drop ht)
  have hlength : (ts.drop (ts.takeWhile Token.isTypeWord).length).length ≤ ts.length := by
    rw [List.length_drop]
    exact Nat.sub_le _ _
  generalize ts.drop (ts.takeWhile Token.isTypeWord).length = rest at hrest hlength
  rw [startsWithSymbol_put (by decide)]
  refine .ite (fun hwidth => ?_) fun _ => .read (String.ofList _) hrest hlength
  obtain ⟨paren, rest, rfl⟩ := exists_of_startsWithSymbol (Bool.and_eq_true_iff.1 hwidth).2
  rw [List.length_cons] at hlength
  have hsigned := alike_readSigned (p := p) hrest.of_cons
  refine .bind hsigned fun _ rest' hrest' hlength' _ => ?_
  dsimp only
  rw [startsWithSymbol_put (by decide)]
  refine .ite (fun hcomma => ?_) fun _ => ?_
  · obtain ⟨comma, rest', rfl⟩ := exists_of_startsWithSymbol hcomma
    rw [List.length_cons] at hlength'
    have hsecond := alike_readSigned (p := p) hrest'.of_cons
    refine .bind hsecond fun _ more hmore hlength'' _ => ?_
    have hclose := alike_symbol (p := p) (w := ")") (by decide) hmore
    refine .bind hclose fun _ end' hend hlast _ => ?_
    exact .read (String.ofList _) hend (hlast.trans (by omega))
  · refine .bind (alike_symbol (by decide) hrest') fun _ end' hend hlast _ => ?_
    exact .read (String.ofList _) hend (hlast.trans (by omega))

theorem declarationGoesOn_put : declarationGoesOn (p.put ts) = declarationGoesOn ts := by
  unfold declarationGoesOn
  simp only [startsWithSymbol_put (by decide : "," ≠ ";"),
    startsWithSymbol_put (by decide : ")" ≠ ";"), startsWithKeyword_put]

theorem needs_readConstraints (table : String) (keyed : Bool) (fuel : Nat) (d : Declared) :
    Needs (readConstraints table keyed fuel d) where
  nil := by cases fuel <;> rfl
  terminator {t} h ts := by
    have hkeyword : ∀ w, startsWithKeyword w (t :: ts) = false := fun _ => isKeyword_of_terminator h
    have hsymbol : ∀ w, w ≠ ";" → startsWithSymbol w (t :: ts) = false :=
      fun _ => isSymbol_of_terminator h
    cases fuel with
    | zero => rfl
    | succ fuel =>
      rw [readConstraints, hkeyword, hkeyword, hkeyword, hkeyword, hsymbol "," (by decide),
        hsymbol ")" (by decide)]
      rfl

/-- Reads what can stand after the keyword of a primary key. -/
def readKeyOptions (ts : List Token) : Bool × List Token :=
  let (descending, ts) := optionalKeyword "DESC" ts
  let (_, ts) := if descending then (true, ts) else optionalKeyword "ASC" ts
  let (_, ts) := optionalKeyword "AUTOINCREMENT" ts
  (descending, ts)

theorem readKeyOptions_put (hts : Unended ts) :
    readKeyOptions (p.put ts) = Prod.map id p.put (readKeyOptions ts) ∧
      Unended (readKeyOptions ts).2 ∧ (readKeyOptions ts).2.length ≤ ts.length := by
  obtain ⟨hput, hrest, hlength⟩ := optionalKeyword_put (p := p) (w := "DESC") hts
  unfold readKeyOptions
  rw [hput]
  generalize optionalKeyword "DESC" ts = first at hrest hlength
  obtain ⟨descending, rest⟩ := first
  cases descending with
  | true =>
    obtain ⟨hlast, hmore, hshort⟩ := optionalKeyword_put (p := p) (w := "AUTOINCREMENT") hrest
    refine ⟨?_, hmore, Nat.le_trans hshort hlength⟩
    show (true, (optionalKeyword "AUTOINCREMENT" (p.put rest)).2) = _
    rw [hlast]
    rfl
  | false =>
    obtain ⟨hsecond, hmore, hshort⟩ := optionalKeyword_put (p := p) (w := "ASC") hrest
    obtain ⟨hlast, hleft, hshorter⟩ := optionalKeyword_put (p := p) (w := "AUTOINCREMENT") hmore
    refine ⟨?_, hleft, Nat.le_trans hshorter (Nat.le_trans hshort hlength)⟩
    show (false, (optionalKeyword "AUTOINCREMENT" (optionalKeyword "ASC" (p.put rest)).2).2) = _
    rw [hsecond]
    show (false, (optionalKeyword "AUTOINCREMENT" (p.put (optionalKeyword "ASC" rest).2)).2) = _
    rw [hlast]
    rfl

/-- A column once it has been declared a primary key. -/
def Declared.asKey (d : Declared) (descending : Bool) : Declared :=
  let rowNumber := d.declaredType.toList.map Char.toUpper = "INTEGER".toList && !descending
  { d with
    column := { d.column with unique := true, isRowNumber := rowNumber },
    isPrimaryKey := true }

/-- Reads the constraints after the keywords of a primary key. -/
def keyConstraints (table : String) (keyed : Bool) (fuel : Nat) (d : Declared) :
    Reader Declared := fun ts =>
  let (descending, ts) := readKeyOptions ts
  if !declarationGoesOn ts then .error (stuckAt ts)
  else if keyed || d.isPrimaryKey then .error (.secondPrimaryKey table)
  else readConstraints table keyed fuel (d.asKey descending) ts

theorem alike_readConstraints (table : String) (keyed : Bool) {fuel fuel' : Nat} (d : Declared)
    (hts : Unended ts) (hfuel : ts.length ≤ fuel) (hfuel' : ts.length ≤ fuel') :
    Alike p id ts.length (readConstraints table keyed fuel d ts)
      (readConstraints table keyed fuel' d (p.put ts)) := by
  refine alike_of_fuel (fun d fuel => readConstraints table keyed fuel d)
    (fun d fuel => readConstraints table keyed fuel d)
    (fun d fuel => needs_readConstraints table keyed fuel d)
    (fun d fuel => needs_readConstraints table keyed fuel d) (fun d fuel fuel' ts hts _ ih => ?_)
    d hts (Nat.le_refl _) hfuel hfuel'
  have hmore : ∀ {rest d}, Unended rest → rest.length < ts.length → Alike p id ts.length
      (readConstraints table keyed fuel d rest)
      (readConstraints table keyed fuel' d (p.put rest)) :=
    fun hrest hless => (ih _ _ hrest hless).mono (Nat.le_of_lt hless)
  rw [readConstraints, readConstraints]
  rw [startsWithKeyword_put, startsWithKeyword_put, startsWithKeyword_put,
    startsWithKeyword_put, startsWithSymbol_put (by decide), startsWithSymbol_put (by decide)]
  refine .ite (fun h => ?_) fun _ => .ite (fun h => ?_) fun _ => .ite (fun h => ?_) fun _ =>
    .ite (fun h => ?_) fun _ => .ite (fun h => ?_) fun _ => alike_stuckAt ts
  · obtain ⟨t, rest, rfl⟩ := exists_of_startsWithKeyword h
    have hkey := alike_keyword (p := p) (w := "KEY") hts.of_cons
    refine .bind hkey fun _ rest hrest hlength _ => ?_
    obtain ⟨hput, hleft, hshort⟩ := readKeyOptions_put (p := p) hrest
    show Alike p id _ (keyConstraints table keyed fuel d rest)
      (keyConstraints table keyed fuel' d (p.put rest))
    unfold keyConstraints
    rw [hput]
    generalize readKeyOptions rest = options at hleft hshort
    obtain ⟨descending, more⟩ := options
    rw [Prod.map_apply]
    dsimp only
    rw [declarationGoesOn_put]
    refine .ite (fun _ => alike_stuckAt more) fun _ =>
      .ite (fun _ => .refused _ nofun) fun _ => ?_
    have hshort : more.length ≤ rest.length := hshort
    exact hmore hleft (Nat.lt_of_le_of_lt hshort (by rw [List.length_cons]; omega))
  · obtain ⟨t, rest, rfl⟩ := exists_of_startsWithKeyword h
    have hnull := alike_keyword (p := p) (w := "NULL") hts.of_cons
    refine .bind hnull fun _ rest hrest hlength _ => ?_
    exact hmore hrest (by rw [List.length_cons]; omega)
  · obtain ⟨t, rest, rfl⟩ := exists_of_startsWithKeyword h
    exact hmore hts.of_cons (Nat.lt_succ_self _)
  · obtain ⟨t, rest, rfl⟩ := exists_of_startsWithKeyword h
    exact hmore hts.of_cons (Nat.lt_succ_self _)
  · exact .read d hts (Nat.le_refl _)

/-- Constraints are read up to a comma or the end of the columns. -/
theorem startsWithSymbol_of_readConstraints {table : String} {keyed : Bool} {fuel : Nat}
    {d d' : Declared} {rest : List Token}
    (h : readConstraints table keyed fuel d ts = .ok (d', rest)) :
    (startsWithSymbol "," rest || startsWithSymbol ")" rest) = true := by
  induction fuel generalizing d ts with
  | zero => cases h
  | succ fuel ih =>
    rw [readConstraints] at h
    split at h
    · obtain ⟨⟨_, key⟩, -, h⟩ := bind_eq_ok_iff.1 h
      have h : keyConstraints table keyed fuel d key = .ok (d', rest) := h
      unfold keyConstraints at h
      dsimp only at h
      split at h
      · cases h
      · split at h
        · cases h
        · exact ih h
    · split at h
      · obtain ⟨_, -, h⟩ := bind_eq_ok_iff.1 h
        exact ih h
      · split at h
        · exact ih h
        · split at h
          · exact ih h
          · split at h
            · next hend =>
              cases h
              exact hend
            · cases h

theorem needs_readColumns (table : String) (keyed : Bool) (seen : List String) (fuel : Nat) :
    Needs (readColumns table keyed seen fuel) where
  nil := by cases fuel <;> rfl
  terminator h ts := by
    cases fuel with
    | zero => rfl
    | succ fuel =>
      rw [readColumns, needs_readName.terminator h]
      rfl

theorem alike_readColumns (table : String) (keyed : Bool) (seen : List String) {fuel fuel' : Nat}
    (hts : Unended ts) (hfuel : ts.length ≤ fuel) (hfuel' : ts.length ≤ fuel') :
    Alike p id ts.length (readColumns table keyed seen fuel ts)
      (readColumns table keyed seen fuel' (p.put ts)) := by
  refine alike_of_fuel (fun i fuel => readColumns table i.1 i.2 fuel)
    (fun i fuel => readColumns table i.1 i.2 fuel)
    (fun i fuel => needs_readColumns table i.1 i.2 fuel)
    (fun i fuel => needs_readColumns table i.1 i.2 fuel) (fun i fuel fuel' ts hts _ ih => ?_)
    (keyed, seen) hts (Nat.le_refl _) hfuel hfuel'
  obtain ⟨keyed, seen⟩ := i
  refine .bind (alike_readName hts) fun name rest hrest hname _ => ?_
  have htype := alike_readType (p := p) hrest
  refine .bind htype fun declaredType rest hrest hdeclared _ => ?_
  dsimp only
  rw [declarationGoesOn_put]
  refine .ite (fun _ => alike_stuckAt rest) fun _ =>
    .ite (fun _ => .refused _ nofun) fun _ => ?_
  have hconstraints := alike_readConstraints (p := p) table keyed
    ⟨⟨name, Affinity.ofDeclared declaredType, false, false, false⟩, declaredType, false⟩
    hrest (Nat.le_refl _) (length_le_put (p := p))
  refine .bind hconstraints fun d rest hrest hlength hread => ?_
  dsimp only
  rw [startsWithSymbol_put (by decide)]
  refine .ite (fun hcomma => ?_) fun hno => ?_
  · obtain ⟨comma, rest, rfl⟩ := exists_of_startsWithSymbol hcomma
    rw [List.length_cons] at hlength
    have hmore := ih (keyed || d.isPrimaryKey, name :: seen) rest hrest.of_cons (by omega)
    refine .bind hmore fun columns more hmore hleft _ => ?_
    exact .read (d.column :: columns) hmore (hleft.trans (by omega))
  · -- Constraints go on up to a comma or the closing parenthesis.
    have hend := startsWithSymbol_of_readConstraints hread
    rw [Bool.not_eq_true] at hno
    rw [hno, Bool.false_or] at hend
    obtain ⟨paren, rest, rfl⟩ := exists_of_startsWithSymbol hend
    rw [List.length_cons] at hlength
    exact .read [d.column] hrest.of_cons (by rw [List.tail_cons]; omega)

/-- Whether a token can be taken for an option of a table. -/
def Token.isOptionName (t : Token) : Bool :=
  t.isPlainName || t.kind = .quoted || t.kind = .bracketed || t.kind = .text

/-- Reads the option that a table declaration may end with. -/
def readTableOption (statement : Statement) : Reader Statement := fun ts =>
  match ts with
  | t :: rest =>
    if t.isOptionName && (atEnd rest || startsWithSymbol "," rest) then
      if t.isKeyword "STRICT" then .ok (statement, rest)
      else .error (.unknownTableOption t.spelling)
    else .ok (statement, ts)
  | [] => .ok (statement, ts)

theorem readTableOption_of_terminator (h : t.isSymbol ";" = true) (statement : Statement)
    (rest : List Token) : readTableOption statement (t :: rest) = .ok (statement, t :: rest) := by
  rw [readTableOption, Token.isOptionName, Token.isPlainName, kind_of_terminator h]
  rfl

theorem alike_readTableOption (statement : Statement) (hts : Unended ts) :
    Alike p (Statement.shifted p.start) ts.length (readTableOption statement ts)
      (readTableOption (statement.shifted p.start) (p.put ts)) := by
  cases ts with
  | nil =>
    have hafter : readTableOption (statement.shifted p.start) p.after =
        .ok (statement.shifted p.start, p.put []) := by
      show _ = Except.ok (_, p.after)
      rcases after_eq p with hafter | ⟨t, rest, hafter, ht⟩
      · rw [hafter]
        rfl
      · rw [hafter]
        exact readTableOption_of_terminator ht _ rest
    show Alike p _ _ (.ok (statement, [])) (readTableOption (statement.shifted p.start) p.after)
    rw [hafter]
    exact .read statement hts (Nat.le_refl _)
  | cons t ts =>
    show Alike p _ _ _ (if t.isOptionName && (atEnd (p.put ts) || startsWithSymbol "," (p.put ts))
      then if t.isKeyword "STRICT" then .ok (statement.shifted p.start, p.put ts)
        else .error (.unknownTableOption t.spelling)
      else .ok (statement.shifted p.start, p.put (t :: ts)))
    rw [atEnd_put, startsWithSymbol_put (by decide)]
    refine .ite (fun _ => .ite (fun _ => ?_) fun _ => .refused _ nofun) fun _ => ?_
    · exact .read statement hts.of_cons (Nat.le_succ _)
    · exact .read statement hts (Nat.le_refl _)

/-- Reads the words that a table declaration may begin with. -/
def readIfAbsent : Reader Bool := fun ts =>
  if startsWithKeyword "IF" ts then do
    let ((), ts) ← keyword "NOT" ts.tail
    let ((), ts) ← keyword "EXISTS" ts
    pure (true, ts)
  else pure (false, ts)

theorem alike_readIfAbsent (hts : Unended ts) :
    Alike p id ts.length (readIfAbsent ts) (readIfAbsent (p.put ts)) := by
  unfold readIfAbsent
  rw [startsWithKeyword_put]
  refine .ite (fun hif => ?_) fun _ => .read false hts (Nat.le_refl _)
  obtain ⟨t, rest, rfl⟩ := exists_of_startsWithKeyword hif
  have hnot := alike_keyword (p := p) (w := "NOT") hts.of_cons
  refine .bind hnot fun _ rest hrest hlength _ => ?_
  have hexists := alike_keyword (p := p) (w := "EXISTS") hrest
  refine .bind hexists fun _ rest' hrest' hlength' _ => ?_
  exact .read true hrest' (hlength'.trans (by rw [List.length_cons]; omega))

/-- Reads the rest of a table declaration from the name of the table on. -/
def readNamed (present : String → Bool) (ifAbsent : Bool) : Reader Statement := fun ts => do
  let (table, ts) ← readTableName ts
  let ((), ts) ← symbol "(" ts
  let foreign := match table.schema with
    | some s => !sameName s "main"
    | none => false
  if foreign then throw (.unknownDatabase (table.schema.getD "") table.start)
  else if "sqlite_".toList.isPrefixOf (table.name.toList.map Char.toLower) then
    throw (.reservedName table.name)
  else if present table.name && !ifAbsent then throw (.tableExists table.name table.offset)
  else
    let (columns, ts) ← readColumns table.name false [] ts.length ts
    readTableOption (.createTable ifAbsent table columns) ts

theorem readCreate_eq (present : String → Bool) (ts : List Token) : readCreate present ts =
    readIfAbsent ts >>= fun x => readNamed present x.1 x.2 := by
  unfold readCreate readIfAbsent
  dsimp only
  split
  · cases keyword "NOT" ts.tail with
    | error fault => rfl
    | ok x =>
      show (keyword "EXISTS" x.2 >>= _) = ((keyword "EXISTS" x.2 >>= _) >>= _)
      cases keyword "EXISTS" x.2 with
      | error fault => rfl
      | ok y => rfl
  · rfl

theorem alike_readNamed {present : String → Bool} {ifAbsent : Bool} (hts : Unended ts) :
    Alike p (Statement.shifted p.start) ts.length (readNamed present ifAbsent ts)
      (readNamed present ifAbsent (p.put ts)) := by
  refine .bind (alike_readTableName hts) fun table rest hrest htable _ => ?_
  have hopen := alike_symbol (p := p) (w := "(") (by decide) hrest
  refine .bind hopen fun _ rest hrest hparen _ => ?_
  refine .ite (fun _ => .refused (.unknownDatabase _ _) nofun) fun _ =>
    .ite (fun _ => .refused (.reservedName _) nofun) fun _ =>
    .ite (fun _ => .refused (.tableExists _ _) nofun) fun _ => ?_
  have hcolumns := alike_readColumns (p := p) table.name false [] hrest (Nat.le_refl _)
    (length_le_put (p := p))
  refine .bind hcolumns fun columns rest hrest hlength _ => ?_
  have hoption := alike_readTableOption (p := p) (.createTable ifAbsent table columns) hrest
  exact hoption.mono (by omega)

theorem alike_readCreate {present : String → Bool} (hts : Unended ts) :
    Alike p (Statement.shifted p.start) ts.length (readCreate present ts)
      (readCreate present (p.put ts)) := by
  rw [readCreate_eq, readCreate_eq]
  refine .bind (alike_readIfAbsent hts) fun ifAbsent rest hrest hlength _ => ?_
  exact (alike_readNamed hrest).mono hlength

/-! ## The other statements -/

theorem needs_symbol (h : w ≠ ";") : Needs (symbol w) where
  nil := rfl
  terminator ht ts := if_neg (by
    rw [startsWithSymbol, isSymbol_of_terminator ht h]
    exact Bool.false_ne_true)

theorem needs_readRows (width : Option Nat) (fuel : Nat) : Needs (readRows width fuel) where
  nil := by cases fuel <;> rfl
  terminator h ts := by
    cases fuel with
    | zero => rfl
    | succ fuel =>
      rw [readRows, (needs_symbol (by decide)).terminator h]
      rfl

/-- The rows as read from a text with `start` more bytes before it. -/
def shiftedRows (start : Nat) (rows : List (List Expr)) : List (List Expr) :=
  rows.map (List.map (Expr.shifted start))

theorem alike_readRows (width : Option Nat) {fuel fuel' : Nat} (hts : Unended ts)
    (hfuel : ts.length ≤ fuel) (hfuel' : ts.length ≤ fuel') :
    Alike p (shiftedRows p.start) ts.length (readRows width fuel ts)
      (readRows width fuel' (p.put ts)) := by
  refine alike_of_fuel readRows readRows needs_readRows needs_readRows
    (fun width fuel fuel' ts hts _ ih => ?_) width hts (Nat.le_refl _) hfuel hfuel'
  refine .bind (alike_symbol (by decide) hts) fun _ rest hrest hopen _ => ?_
  have hexprs := alike_readExprs (p := p) hrest
  refine .bind hexprs fun row rest hrest hrow _ => ?_
  have hclose := alike_symbol (p := p) (w := ")") (by decide) hrest
  refine .bind hclose fun _ rest hrest hlength _ => ?_
  dsimp only
  rw [startsWithSymbol_put (by decide), List.length_map, atEnd_put]
  refine .ite (fun hcomma => ?_) fun _ => .ite (fun _ => .refused _ nofun) fun _ => ?_
  · refine .ite (fun _ => .refused _ nofun) fun _ => ?_
    obtain ⟨comma, rest, rfl⟩ := exists_of_startsWithSymbol hcomma
    rw [List.length_cons] at hlength
    have hmore := ih (some row.length) rest hrest.of_cons (by omega)
    refine .bind hmore fun rows rest' hrest' hlast _ => ?_
    exact .read (row :: rows) hrest' (hlast.trans (by omega))
  · exact .read [row] hrest (hlength.trans (by omega))

/-- Reads the names of columns in parentheses, if there are any. -/
def readListed : Reader (Option (List String)) := fun ts =>
  if startsWithSymbol "(" ts then do
    let (names, ts) ← readNames ts.tail
    let ((), ts) ← symbol ")" ts
    pure (some names, ts)
  else pure (none, ts)

theorem alike_readListed (hts : Unended ts) :
    Alike p id ts.length (readListed ts) (readListed (p.put ts)) := by
  unfold readListed
  rw [startsWithSymbol_put (by decide)]
  refine .ite (fun hopen => ?_) fun _ => .read none hts (Nat.le_refl _)
  obtain ⟨paren, rest, rfl⟩ := exists_of_startsWithSymbol hopen
  have hnames := alike_readNames (p := p) hts.of_cons
  refine .bind hnames fun names rest hrest hlength _ => ?_
  have hclose := alike_symbol (p := p) (w := ")") (by decide) hrest
  refine .bind hclose fun _ rest' hrest' hlength' _ => ?_
  exact .read (some names) hrest' (hlength'.trans (by rw [List.length_cons]; omega))

/-- Reads the rows of an insertion after its columns. -/
def readValues (table : TableName) (columns : Option (List String)) :
    Reader Statement := fun ts => do
  let ((), ts) ← keyword "VALUES" ts
  let (rows, ts) ← readRows none ts.length ts
  return (.insert table columns rows, ts)

theorem readInsert_eq (ts : List Token) : readInsert ts = (do
    let ((), ts) ← keyword "INTO" ts
    let (table, ts) ← readTableName ts
    let (columns, ts) ← readListed ts
    readValues table columns ts) := by
  unfold readInsert readListed
  cases keyword "INTO" ts with
  | error fault => rfl
  | ok x =>
    show (readTableName x.2 >>= _) = (readTableName x.2 >>= _)
    cases readTableName x.2 with
    | error fault => rfl
    | ok y =>
      show (if startsWithSymbol "(" y.2 then _ else _) =
        ((if startsWithSymbol "(" y.2 then _ else _) >>= _)
      split
      · cases readNames y.2.tail with
        | error fault => rfl
        | ok z =>
          show (symbol ")" z.2 >>= _) = ((symbol ")" z.2 >>= _) >>= _)
          cases symbol ")" z.2 with
          | error fault => rfl
          | ok v => rfl
      · rfl

theorem alike_readInsert (hts : Unended ts) :
    Alike p (Statement.shifted p.start) ts.length (readInsert ts) (readInsert (p.put ts)) := by
  rw [readInsert_eq, readInsert_eq]
  refine .bind (alike_keyword hts) fun _ rest hrest hinto _ => ?_
  have htable := alike_readTableName (p := p) hrest
  refine .bind htable fun table rest hrest htable _ => ?_
  have hlisted := alike_readListed (p := p) hrest
  refine .bind hlisted fun columns rest hrest hlisted _ => ?_
  have hvalues := alike_keyword (p := p) (w := "VALUES") hrest
  refine .bind hvalues fun _ rest hrest hvalues _ => ?_
  have hrows := alike_readRows (p := p) none hrest (Nat.le_refl _) (length_le_put (p := p))
  refine .bind hrows fun rows rest hrest hrows _ => ?_
  exact .read (Statement.insert table columns rows) hrest (hrows.trans (by omega))

/-- Whether a token can stand for a name. -/
def Token.isName (t : Token) : Bool := t.name?.isSome

theorem isName_of_terminator (h : t.isSymbol ";" = true) : t.isName = false := by
  rw [Token.isName, name?_of_terminator h]
  rfl

theorem skipName_put (hts : Unended ts) :
    skipIf Token.isName (p.put ts) = p.put (skipIf Token.isName ts) ∧
      Unended (skipIf Token.isName ts) ∧ (skipIf Token.isName ts).length ≤ ts.length :=
  skipIf_put (fun _ => isName_of_terminator) (fun _ _ => rfl) hts

/-- Reads the name that an entry may be given. -/
def readAlias (item : ResultItem) : Reader ResultItem := fun ts =>
  match ts with
  | t :: rest => if (t.name?).isSome then pure (item, rest) else pure (item, ts)
  | [] => pure (item, ts)

theorem readAlias_eq (item : ResultItem) (ts : List Token) :
    readAlias item ts = .ok (item, skipIf Token.isName ts) := by
  cases ts with
  | nil => rfl
  | cons t ts => exact (apply_ite (fun rest => Except.ok (item, rest)) _ _ _).symm

theorem needs_readResultItem : Needs readResultItem where
  nil := rfl
  terminator {t} h ts := by
    have hstar : startsWithSymbol "*" (t :: ts) = false := isSymbol_of_terminator h (by decide)
    unfold readResultItem
    rw [hstar, (needs_readExpr _).terminator h]
    rfl

theorem alike_readResultItem (hts : Unended ts) :
    Alike p (ResultItem.shifted p.start) ts.length (readResultItem ts)
      (readResultItem (p.put ts)) := by
  unfold readResultItem
  rw [startsWithSymbol_put (by decide)]
  refine .ite (fun hstar => ?_) fun _ => ?_
  · obtain ⟨t, rest, rfl⟩ := exists_of_startsWithSymbol hstar
    exact .read ResultItem.all hts.of_cons (Nat.le_succ _)
  have hexpr := alike_readExpr (p := p) hts (Nat.le_refl _) (length_le_put (p := p))
  refine .bind hexpr fun e rest hrest hlength _ => ?_
  dsimp only
  rw [startsWithKeyword_put]
  refine .ite (fun has => ?_) fun _ => ?_
  · obtain ⟨t, rest, rfl⟩ := exists_of_startsWithKeyword has
    rw [List.length_cons] at hlength
    have hname := alike_readName (p := p) hrest.of_cons
    refine .bind hname fun _ rest' hrest' hlast _ => ?_
    exact .read (ResultItem.expr e) hrest' (hlast.trans (by omega))
  · show Alike p _ _ (readAlias (.expr e) rest) (readAlias (.expr (e.shifted p.start)) (p.put rest))
    obtain ⟨hput, hleft, hshort⟩ := skipName_put (p := p) hrest
    rw [readAlias_eq, readAlias_eq, hput]
    exact .read (ResultItem.expr e) hleft (Nat.le_trans hshort hlength)

/-- Tokens without the word that may come before a result list. -/
def skipQuantity (ts : List Token) : List Token :=
  let (distinct, ts) := optionalKeyword "DISTINCT" ts
  (if distinct then (true, ts) else optionalKeyword "ALL" ts).2

theorem skipQuantity_put (hts : Unended ts) : skipQuantity (p.put ts) = p.put (skipQuantity ts) ∧
    Unended (skipQuantity ts) ∧ (skipQuantity ts).length ≤ ts.length := by
  obtain ⟨hput, hrest, hlength⟩ := optionalKeyword_put (p := p) (w := "DISTINCT") hts
  unfold skipQuantity
  rw [hput]
  generalize optionalKeyword "DISTINCT" ts = first at hrest hlength
  obtain ⟨distinct, rest⟩ := first
  cases distinct with
  | true => exact ⟨rfl, hrest, hlength⟩
  | false =>
    obtain ⟨hall, hmore, hshort⟩ := optionalKeyword_put (p := p) (w := "ALL") hrest
    exact ⟨congrArg Prod.snd hall, hmore, Nat.le_trans hshort hlength⟩

/-- Reads the table of a query, if there is one. -/
def readSource (items : List ResultItem) : Reader Statement := fun ts =>
  if startsWithKeyword "FROM" ts then do
    let (table, ts) ← readTableName ts.tail
    if startsWithKeyword "AS" ts then
      let (_, ts) ← readName ts.tail
      return (.select items (some table), ts)
    else return (.select items (some table), ts)
  else return (.select items none, ts)

theorem readSelect_eq (ts : List Token) : readSelect ts =
    commaList readResultItem (skipQuantity ts).length (skipQuantity ts) >>= fun x =>
      readSource x.1 x.2 := rfl

theorem alike_readSource {items : List ResultItem} (hts : Unended ts) :
    Alike p (Statement.shifted p.start) ts.length (readSource items ts)
      (readSource (items.map (ResultItem.shifted p.start)) (p.put ts)) := by
  unfold readSource
  rw [startsWithKeyword_put]
  refine .ite (fun hfrom => ?_) fun _ => .read (Statement.select items none) hts (Nat.le_refl _)
  obtain ⟨t, rest, rfl⟩ := exists_of_startsWithKeyword hfrom
  rw [List.length_cons]
  have htable := alike_readTableName (p := p) hts.of_cons
  refine .bind htable fun table rest hrest hlength _ => ?_
  dsimp only
  rw [startsWithKeyword_put]
  refine .ite (fun has => ?_) fun _ => ?_
  · obtain ⟨t, rest, rfl⟩ := exists_of_startsWithKeyword has
    rw [List.length_cons] at hlength
    have hname := alike_readName (p := p) hrest.of_cons
    refine .bind hname fun _ rest' hrest' hlast _ => ?_
    exact .read (Statement.select items (some table)) hrest' (hlast.trans (by omega))
  · exact .read (Statement.select items (some table)) hrest (hlength.trans (by omega))

theorem alike_readSelect (hts : Unended ts) :
    Alike p (Statement.shifted p.start) ts.length (readSelect ts) (readSelect (p.put ts)) := by
  rw [readSelect_eq, readSelect_eq]
  obtain ⟨hput, hleft, hshort⟩ := skipQuantity_put (p := p) hts
  rw [hput]
  have hitems := alike_commaList (p := p) (fun us hus _ => alike_readResultItem hus)
    needs_readResultItem needs_readResultItem hleft (Nat.le_refl _) (Nat.le_refl _)
    (length_le_put (p := p))
  refine .bind hitems fun items rest hrest hlength _ => ?_
  exact (alike_readSource hrest).mono (Nat.le_trans hlength hshort)

theorem alike_readAssignment (hts : Unended ts) :
    Alike p (Prod.map id (Expr.shifted p.start)) ts.length (readAssignment ts)
      (readAssignment (p.put ts)) := by
  have hname := (alike_readName (p := p) hts)
  refine .bind hname fun name rest hrest hlength _ => ?_
  have hequals := alike_symbol (p := p) (w := "=") (by decide) hrest
  refine .bind hequals fun _ rest hrest hequals _ => ?_
  have hexpr := alike_readExpr (p := p) hrest (Nat.le_refl _) (length_le_put (p := p))
  refine .bind hexpr fun e rest hrest hlast _ => ?_
  exact .read (name, e) hrest (hlast.trans (by omega))

theorem needs_readAssignment : Needs readAssignment where
  nil := rfl
  terminator h ts := by
    rw [readAssignment, needs_readName.terminator h]
    rfl

theorem alike_readUpdate (hts : Unended ts) :
    Alike p (Statement.shifted p.start) ts.length (readUpdate ts) (readUpdate (p.put ts)) := by
  refine .bind (alike_readTableName hts) fun table rest hrest htable _ => ?_
  have hset := alike_keyword (p := p) (w := "SET") hrest
  refine .bind hset fun _ rest hrest hset _ => ?_
  have hassignments := alike_commaList (p := p) (fun us hus _ => alike_readAssignment hus)
    needs_readAssignment needs_readAssignment hrest (Nat.le_refl _) (Nat.le_refl _)
    (length_le_put (p := p))
  refine .bind hassignments fun assignments rest hrest hlast _ => ?_
  exact .read (Statement.update table assignments) hrest (hlast.trans (by omega))

/-! ## Transactions and settings -/

theorem readTransactionWord_eq (ts : List Token) : readTransactionWord ts =
    if startsWithKeyword "TRANSACTION" ts then skipIf Token.isName ts.tail else ts := by
  unfold readTransactionWord optionalKeyword
  by_cases h : startsWithKeyword "TRANSACTION" ts = true
  · rw [if_pos h, if_pos h]
    cases ts.tail <;> rfl
  · rw [if_neg h, if_neg h]

theorem readTransactionWord_put (hts : Unended ts) :
    readTransactionWord (p.put ts) = p.put (readTransactionWord ts) ∧
      Unended (readTransactionWord ts) ∧ (readTransactionWord ts).length ≤ ts.length := by
  rw [readTransactionWord_eq, readTransactionWord_eq, startsWithKeyword_put]
  split
  · next h =>
    obtain ⟨t, rest, rfl⟩ := exists_of_startsWithKeyword h
    obtain ⟨hput, hleft, hshort⟩ := skipName_put (p := p) hts.of_cons
    exact ⟨hput, hleft, Nat.le_trans hshort (Nat.le_succ _)⟩
  · exact ⟨rfl, hts, Nat.le_refl _⟩

theorem alike_readTransactionWord {statement : Statement}
    (hsame : statement.shifted p.start = statement) {n : Nat} (hts : Unended ts)
    (hn : ts.length ≤ n) : Alike p (Statement.shifted p.start) n
      (.ok (statement, readTransactionWord ts))
      (.ok (statement, readTransactionWord (p.put ts))) := by
  obtain ⟨hput, hleft, hshort⟩ := readTransactionWord_put (p := p) hts
  have hread : Alike p (Statement.shifted p.start) n (.ok (statement, readTransactionWord ts))
      (.ok (statement.shifted p.start, p.put (readTransactionWord ts))) :=
    .read statement hleft (Nat.le_trans hshort hn)
  rwa [hsame, ← hput] at hread

theorem alike_readBegin (hts : Unended ts) :
    Alike p (Statement.shifted p.start) ts.length (.ok (readBegin ts))
      (.ok (readBegin (p.put ts))) := by
  unfold readBegin
  rw [startsWithKeyword_put, startsWithKeyword_put, startsWithKeyword_put]
  have hbegin : ∀ {t : Token} {rest : List Token} (mode : BeginMode), ts = t :: rest →
      Alike p (Statement.shifted p.start) ts.length (.ok (.begin mode, readTransactionWord ts.tail))
        (.ok (.begin mode, readTransactionWord (p.put ts).tail)) := by
    rintro t rest mode rfl
    exact alike_readTransactionWord rfl hts.of_cons (Nat.le_succ _)
  by_cases hdeferred : startsWithKeyword "DEFERRED" ts = true
  · rw [if_pos hdeferred, if_pos hdeferred]
    obtain ⟨t, rest, hrest⟩ := exists_of_startsWithKeyword hdeferred
    exact hbegin .deferred hrest
  rw [if_neg hdeferred, if_neg hdeferred]
  by_cases himmediate : startsWithKeyword "IMMEDIATE" ts = true
  · rw [if_pos himmediate, if_pos himmediate]
    obtain ⟨t, rest, hrest⟩ := exists_of_startsWithKeyword himmediate
    exact hbegin .immediate hrest
  rw [if_neg himmediate, if_neg himmediate]
  by_cases hexclusive : startsWithKeyword "EXCLUSIVE" ts = true
  · rw [if_pos hexclusive, if_pos hexclusive]
    obtain ⟨t, rest, hrest⟩ := exists_of_startsWithKeyword hexclusive
    exact hbegin .exclusive hrest
  · rw [if_neg hexclusive, if_neg hexclusive]
    exact alike_readTransactionWord rfl hts (Nat.le_refl _)

/-- Reads the value of a setting after its sign, if it has one. -/
def readSettingValue (signed negative : Bool) : Reader (Option Int) := fun ts =>
  match ts with
  | u :: more =>
    if u.kind = .integer || u.kind = .real || u.kind = .hexadecimal then
      match u.literal? with
      | some (.integer n) => .ok (some (if negative then -n else n), more)
      | _ => .ok (none, more)
    else if signed then .error (stuckAt ts)
    else if (u.name?).isSome || ["ON", "DELETE", "DEFAULT"].any u.isKeyword then .ok (none, more)
    else .error (stuckAt ts)
  | [] => .error .incomplete

theorem readSetting_cons (t : Token) (rest : List Token) : readSetting (t :: rest) =
    readSettingValue (t.isSymbol "-" || t.isSymbol "+") (t.isSymbol "-")
      (if t.isSymbol "-" || t.isSymbol "+" then rest else t :: rest) := rfl

theorem needs_readSettingValue (signed negative : Bool) :
    Needs (readSettingValue signed negative) where
  nil := rfl
  terminator {t} h ts := by
    have hwords : ["ON", "DELETE", "DEFAULT"].any t.isKeyword = false := by
      simp only [List.any_cons, List.any_nil, isKeyword_of_terminator h, Bool.or_false]
    rw [readSettingValue, kind_of_terminator h, name?_of_terminator h, hwords]
    cases signed <;> rfl

theorem alike_readSettingValue {signed negative : Bool} (hts : Unended ts) :
    Alike p id ts.length (readSettingValue signed negative ts)
      (readSettingValue signed negative (p.put ts)) := by
  cases ts with
  | nil => exact (needs_readSettingValue _ _).alike (needs_readSettingValue _ _)
  | cons u more =>
    have hnone : Alike p id (more.length + 1) (.ok (none, more)) (.ok (none, p.put more)) :=
      .read (none : Option Int) hts.of_cons (Nat.le_succ _)
    refine .ite (fun _ => ?_) fun _ => .ite (fun _ => alike_stuckAt (u :: more)) fun _ =>
      .ite (fun _ => hnone) fun _ => alike_stuckAt (u :: more)
    show Alike p id _ (match u.literal? with | some (.integer n) => _ | _ => _)
      (match u.literal? with | some (.integer n) => _ | _ => _)
    split
    · exact .read (some _) hts.of_cons (Nat.le_succ _)
    · exact hnone

theorem needs_readSetting : Needs readSetting where
  nil := rfl
  terminator {t} h rest := by
    rw [readSetting_cons, isSymbol_of_terminator h (by decide),
      isSymbol_of_terminator h (by decide)]
    exact (needs_readSettingValue false false).terminator h rest

theorem alike_readSetting (hts : Unended ts) :
    Alike p id ts.length (readSetting ts) (readSetting (p.put ts)) := by
  cases ts with
  | nil => exact needs_readSetting.alike needs_readSetting
  | cons t rest =>
    rw [readSetting_cons]
    show Alike p id _ _ (readSettingValue (t.isSymbol "-" || t.isSymbol "+") (t.isSymbol "-")
      (if t.isSymbol "-" || t.isSymbol "+" then p.put rest else p.put (t :: rest)))
    by_cases hsigned : (t.isSymbol "-" || t.isSymbol "+") = true
    · rw [if_pos hsigned, if_pos hsigned]
      exact (alike_readSettingValue hts.of_cons).mono (Nat.le_succ _)
    · rw [if_neg hsigned, if_neg hsigned]
      exact alike_readSettingValue hts

theorem alike_readPragma (hts : Unended ts) :
    Alike p (Statement.shifted p.start) ts.length (readPragma ts) (readPragma (p.put ts)) := by
  refine .bind (alike_readTableName hts) fun name rest hrest hlength _ => ?_
  dsimp only
  rw [startsWithSymbol_put (by decide), startsWithSymbol_put (by decide)]
  refine .ite (fun hequals => ?_) fun _ => .ite (fun hopen => ?_) fun _ => ?_
  · obtain ⟨t, rest, rfl⟩ := exists_of_startsWithSymbol hequals
    rw [List.length_cons] at hlength
    have hvalue := alike_readSetting (p := p) hrest.of_cons
    refine .bind hvalue fun value rest' hrest' hlast _ => ?_
    exact .read (Statement.pragma name.name value) hrest' (hlast.trans (by omega))
  · obtain ⟨t, rest, rfl⟩ := exists_of_startsWithSymbol hopen
    rw [List.length_cons] at hlength
    have hvalue := alike_readSetting (p := p) hrest.of_cons
    refine .bind hvalue fun value rest' hrest' hvalue _ => ?_
    have hclose := alike_symbol (p := p) (w := ")") (by decide) hrest'
    refine .bind hclose fun _ more hmore hlast _ => ?_
    exact .read (Statement.pragma name.name value) hmore (hlast.trans (by omega))
  · exact .read (Statement.pragma name.name none) hrest (hlength.trans (Nat.sub_le _ _))

theorem alike_readAttach (hts : Unended ts) :
    Alike p (Statement.shifted p.start) ts.length (readAttach ts) (readAttach (p.put ts)) := by
  obtain ⟨hput, hrest, hlength⟩ := optionalKeyword_put (p := p) (w := "DATABASE") hts
  unfold readAttach
  rw [hput]
  generalize optionalKeyword "DATABASE" ts = first at hrest hlength
  obtain ⟨named, rest⟩ := first
  have hlength : rest.length ≤ ts.length := hlength
  have hfile := alike_readExpr (p := p) hrest (Nat.le_refl _) (length_le_put (p := p))
  refine .bind hfile fun file rest hrest hfile _ => ?_
  have has := alike_keyword (p := p) (w := "AS") hrest
  refine .bind has fun _ rest hrest has _ => ?_
  have hname := alike_readExpr (p := p) hrest (Nat.le_refl _) (length_le_put (p := p))
  refine .bind hname fun name rest hrest hlast _ => ?_
  exact .read (Statement.attach file name) hrest (hlast.trans (by omega))

/-! ## Statements -/

/-- Reads the removal of a table after its first keyword. -/
def readDrop : Reader Statement := fun ts => do
  let ((), rest) ← keyword "TABLE" ts
  let (ifPresent, rest) ← if startsWithKeyword "IF" rest then do
      let ((), rest) ← keyword "EXISTS" rest.tail
      pure (true, rest)
    else pure (false, rest)
  let (table, rest) ← readTableName rest
  return (.dropTable ifPresent table, rest)

theorem alike_readDrop (hts : Unended ts) :
    Alike p (Statement.shifted p.start) ts.length (readDrop ts) (readDrop (p.put ts)) := by
  refine .bind (alike_keyword hts) fun _ rest hrest hlength _ => ?_
  have hnamed : ∀ (ifPresent : Bool) (us : List Token), Unended us → us.length ≤ ts.length →
      Alike p (Statement.shifted p.start) ts.length
        (readTableName us >>= fun x => pure (.dropTable ifPresent x.1, x.2))
        (readTableName (p.put us) >>= fun x => pure (.dropTable ifPresent x.1, x.2)) := by
    intro ifPresent us hus hshort
    refine .bind (alike_readTableName hus) fun table rest hrest hlast _ => ?_
    exact .read (Statement.dropTable ifPresent table) hrest (hlast.trans (by omega))
  dsimp only
  rw [startsWithKeyword_put]
  refine .ite (fun hif => ?_) fun _ => hnamed false rest hrest (hlength.trans (Nat.sub_le _ _))
  obtain ⟨t, rest, rfl⟩ := exists_of_startsWithKeyword hif
  rw [List.length_cons] at hlength
  have hexists := alike_keyword (p := p) (w := "EXISTS") hrest.of_cons
  refine .bind hexists fun _ rest' hrest' hlast _ => ?_
  exact hnamed true rest' hrest' (hlast.trans (by omega))

/-- Reads the removal of all rows after its first keyword. -/
def readDelete : Reader Statement := fun ts => do
  let ((), rest) ← keyword "FROM" ts
  let (table, rest) ← readTableName rest
  return (.delete table, rest)

theorem alike_readDelete (hts : Unended ts) :
    Alike p (Statement.shifted p.start) ts.length (readDelete ts) (readDelete (p.put ts)) := by
  refine .bind (alike_keyword hts) fun _ rest hrest hlength _ => ?_
  have htable := alike_readTableName (p := p) hrest
  refine .bind htable fun table rest hrest hlast _ => ?_
  exact .read (Statement.delete table) hrest (hlast.trans (by omega))

theorem needs_readStatement (present : String → Bool) : Needs (readStatement present) where
  nil := rfl
  terminator {t} h ts := by
    unfold readStatement
    simp only [isKeyword_of_terminator h]
    rfl

theorem readStatement_cons (present : String → Bool) (t : Token) (rest : List Token) :
    readStatement present (t :: rest) =
      if t.isKeyword "CREATE" then keyword "TABLE" rest >>= fun x => readCreate present x.2
      else if t.isKeyword "DROP" then readDrop rest
      else if t.isKeyword "INSERT" then readInsert rest
      else if t.isKeyword "SELECT" then readSelect rest
      else if t.isKeyword "UPDATE" then readUpdate rest
      else if t.isKeyword "DELETE" then readDelete rest
      else if t.isKeyword "BEGIN" then .ok (readBegin rest)
      else if t.isKeyword "COMMIT" || t.isKeyword "END" then .ok (.commit, readTransactionWord rest)
      else if t.isKeyword "ROLLBACK" then .ok (.rollback, readTransactionWord rest)
      else if t.isKeyword "PRAGMA" then readPragma rest
      else if t.isKeyword "ATTACH" then readAttach rest
      else .error (stuckAt (t :: rest)) := rfl

/-- A statement is read at a place as it is read alone. -/
theorem alike_readStatement (present : String → Bool) (hts : Unended ts) :
    Alike p (Statement.shifted p.start) ts.length (readStatement present ts)
      (readStatement present (p.put ts)) := by
  cases ts with
  | nil => exact (needs_readStatement present).alike (needs_readStatement present)
  | cons t rest =>
    have hrest := hts.of_cons
    have hcreate : Alike p (Statement.shifted p.start) rest.length
        (keyword "TABLE" rest >>= fun x => readCreate present x.2)
        (keyword "TABLE" (p.put rest) >>= fun x => readCreate present x.2) :=
      .bind (alike_keyword hrest) fun _ _ hmore hlength _ =>
        (alike_readCreate hmore).mono (hlength.trans (Nat.sub_le _ _))
    show Alike p _ _ _ (readStatement present (t.shifted p.start :: p.put rest))
    rw [readStatement_cons, readStatement_cons]
    refine .ite (fun _ => hcreate.mono (Nat.le_succ _)) fun _ =>
      .ite (fun _ => (alike_readDrop hrest).mono (Nat.le_succ _)) fun _ =>
      .ite (fun _ => (alike_readInsert hrest).mono (Nat.le_succ _)) fun _ =>
      .ite (fun _ => (alike_readSelect hrest).mono (Nat.le_succ _)) fun _ =>
      .ite (fun _ => (alike_readUpdate hrest).mono (Nat.le_succ _)) fun _ =>
      .ite (fun _ => (alike_readDelete hrest).mono (Nat.le_succ _)) fun _ =>
      .ite (fun _ => (alike_readBegin hrest).mono (Nat.le_succ _)) fun _ =>
      .ite (fun _ => alike_readTransactionWord rfl hrest (Nat.le_succ _)) fun _ =>
      .ite (fun _ => alike_readTransactionWord rfl hrest (Nat.le_succ _)) fun _ =>
      .ite (fun _ => (alike_readPragma hrest).mono (Nat.le_succ _)) fun _ =>
      .ite (fun _ => (alike_readAttach hrest).mono (Nat.le_succ _)) fun _ =>
      alike_stuckAt (t :: rest)

end SqlReplay.Sql
