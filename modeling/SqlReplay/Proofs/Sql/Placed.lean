import SqlReplay.Proofs.Sql.Stretches
import SqlReplay.Sql.Operation

/-!
# Statements in a longer text

The tokens of a statement can stand in a longer text, further back and before a terminator
(`Place`).  There they are read like the statement alone (`Alike`), one lemma for each reader: what
is read is the same, and so is what is refused, but for the places that are told; only where a
statement alone would have to go on, the longer text is refused at the terminator.
-/

namespace SqlReplay.Sql

/-- A place for tokens: the bytes before it, and the tokens after it. -/
structure Place where
  start : Nat
  after : List Token
  /-- A terminator comes first there, if anything does. -/
  ended : atEnd after = true

/-- The tokens at a place, with those after it. -/
def Place.put (p : Place) (ts : List Token) : List Token :=
  ts.map (Token.shifted p.start) ++ p.after

/-- Whether no token is a terminator. -/
def Unended (ts : List Token) : Prop := ∀ t ∈ ts, t.isSymbol ";" = false

/-! ## Where things stand -/

/-- The failure as told of a text with `start` more bytes before it. -/
def Error.shifted (start : Nat) : Error → Error
  | syntaxNear token offset => .syntaxNear token (start + offset)
  | unrecognized token offset => .unrecognized token (start + offset)
  | tableExists name offset => .tableExists name (start + offset)
  | unknownDatabase name offset => .unknownDatabase name (start + offset)
  | noSuchColumn name offset => .noSuchColumn name (offset.map (start + ·))
  | fault => fault

/-- The expression as read from a text with `start` more bytes before it. -/
def Expr.shifted (start : Nat) : Expr → Expr
  | literal v => .literal v
  | column table name orText offset => .column table name orText (start + offset)
  | negate e => .negate (e.shifted start)

def TableName.shifted (start : Nat) (t : TableName) : TableName :=
  { t with start := start + t.start, offset := start + t.offset }

def ResultItem.shifted (start : Nat) : ResultItem → ResultItem
  | all => .all
  | expr e => .expr (e.shifted start)

def Statement.shifted (start : Nat) : Statement → Statement
  | createTable ifAbsent table columns => .createTable ifAbsent (table.shifted start) columns
  | dropTable ifPresent table => .dropTable ifPresent (table.shifted start)
  | insert table columns rows =>
    .insert (table.shifted start) columns (rows.map (List.map (Expr.shifted start)))
  | select items source =>
    .select (items.map (ResultItem.shifted start)) (source.map (TableName.shifted start))
  | update table assignments =>
    .update (table.shifted start) (assignments.map (Prod.map id (Expr.shifted start)))
  | delete table => .delete (table.shifted start)
  | attach file name => .attach (file.shifted start) (name.shifted start)
  | statement => statement

/-- What readings of a statement alone, and at a place, have to do with each other: what is read
alone, at most `n` tokens being left, is read there, as `g` moves it. -/
inductive Alike {α : Type} (p : Place) (g : α → α) (n : Nat) :
    Except Error (α × List Token) → Except Error (α × List Token) → Prop
  | read (a : α) {rest : List Token} (hrest : Unended rest) (hlength : rest.length ≤ n) :
    Alike p g n (.ok (a, rest)) (.ok (g a, p.put rest))
  | short : Alike p g n (.error .incomplete) (.error (stuckAt p.after))
  | refused (fault : Error) (h : fault ≠ .incomplete) :
    Alike p g n (.error fault) (.error (fault.shifted p.start))

variable {α β : Type} {p : Place} {ts : List Token} {t : Token} {w : String}

namespace Alike

variable {g : α → α} {h : β → β} {n m : Nat} {x y : Except Error (α × List Token)}

theorem mono (hxy : Alike p g n x y) (hn : n ≤ m) : Alike p g m x y := by
  cases hxy with
  | read a hrest hlength => exact .read a hrest (Nat.le_trans hlength hn)
  | short => exact .short
  | refused fault hfault => exact .refused fault hfault

/-- If readings are alike, and so is what comes after them, both are together. -/
theorem bind {k k' : α × List Token → Except Error (β × List Token)} (hxy : Alike p g n x y)
    (hk : ∀ a rest, Unended rest → rest.length ≤ n → x = .ok (a, rest) →
      Alike p h m (k (a, rest)) (k' (g a, p.put rest))) :
    Alike p h m (x >>= k) (y >>= k') := by
  cases hxy with
  | read a hrest hlength => exact hk a _ hrest hlength rfl
  | short => exact .short
  | refused fault hfault => exact .refused fault hfault

theorem ite {x' y' : Except Error (α × List Token)} {c : Prop} [Decidable c]
    (hpos : c → Alike p g n x y) (hneg : ¬c → Alike p g n x' y') :
    Alike p g n (if c then x else x') (if c then y else y') := by
  split
  · exact hpos ‹_›
  · exact hneg ‹_›

end Alike

/-! ## Tokens -/

theorem Unended.of_cons (h : Unended (t :: ts)) : Unended ts :=
  fun u hu => h u (List.mem_cons_of_mem t hu)

theorem after_eq (p : Place) :
    p.after = [] ∨ ∃ t rest, p.after = t :: rest ∧ t.isSymbol ";" = true := by
  have hended := p.ended
  cases hafter : p.after with
  | nil => exact .inl rfl
  | cons t rest =>
    rw [hafter] at hended
    exact .inr ⟨t, rest, rfl, hended⟩

theorem isSymbol_of_terminator (h : t.isSymbol ";" = true) (hw : w ≠ ";") :
    t.isSymbol w = false := by
  obtain ⟨-, hlexeme⟩ := Bool.and_eq_true_iff.1 h
  rw [Token.isSymbol, of_decide_eq_true hlexeme, Bool.and_eq_false_iff]
  exact .inr (decide_eq_false fun hsame => hw (String.toList_injective hsame.symm))

theorem kind_of_terminator (h : t.isSymbol ";" = true) : t.kind = .symbol :=
  of_decide_eq_true (Bool.and_eq_true_iff.1 h).1

theorem isKeyword_of_terminator (h : t.isSymbol ";" = true) : t.isKeyword w = false := by
  rw [Token.isKeyword, kind_of_terminator h]
  rfl

theorem startsWithKeyword_put : startsWithKeyword w (p.put ts) = startsWithKeyword w ts := by
  cases ts with
  | cons t ts => rfl
  | nil =>
    show startsWithKeyword w p.after = false
    rcases after_eq p with hafter | ⟨t, rest, hafter, ht⟩
    · rw [hafter]; rfl
    · rw [hafter]; exact isKeyword_of_terminator ht

theorem startsWithSymbol_put (hw : w ≠ ";") :
    startsWithSymbol w (p.put ts) = startsWithSymbol w ts := by
  cases ts with
  | cons t ts => rfl
  | nil =>
    show startsWithSymbol w p.after = false
    rcases after_eq p with hafter | ⟨t, rest, hafter, ht⟩
    · rw [hafter]; rfl
    · rw [hafter]; exact isSymbol_of_terminator ht hw

theorem atEnd_put : atEnd (p.put ts) = atEnd ts := by
  cases ts with
  | cons t ts => rfl
  | nil => exact p.ended

theorem exists_of_startsWithKeyword (h : startsWithKeyword w ts = true) :
    ∃ t rest, ts = t :: rest := by
  cases ts with
  | nil => cases h
  | cons t rest => exact ⟨t, rest, rfl⟩

theorem exists_of_startsWithSymbol (h : startsWithSymbol w ts = true) :
    ∃ t rest, ts = t :: rest := by
  cases ts with
  | nil => cases h
  | cons t rest => exact ⟨t, rest, rfl⟩

theorem stuckAt_ne_incomplete (t : Token) (ts : List Token) : stuckAt (t :: ts) ≠ .incomplete := by
  rw [stuckAt]
  split <;> exact nofun

theorem stuckAt_put (t : Token) (ts : List Token) :
    stuckAt (p.put (t :: ts)) = (stuckAt (t :: ts)).shifted p.start := by
  show (if t.kind = .illegal then _ else _) =
    Error.shifted p.start (if t.kind = .illegal then _ else _)
  split <;> rfl

/-- What cannot go on alone cannot go on at a place. -/
theorem alike_stuckAt {g : α → α} {n : Nat} (ts : List Token) :
    Alike p g n (.error (stuckAt ts)) (.error (stuckAt (p.put ts))) := by
  cases ts with
  | nil => exact .short
  | cons t ts =>
    rw [stuckAt_put]
    exact .refused _ (stuckAt_ne_incomplete t ts)

/-! ## Words, symbols and names -/

theorem alike_keyword (hts : Unended ts) :
    Alike p id (ts.length - 1) (keyword w ts) (keyword w (p.put ts)) := by
  unfold keyword
  rw [startsWithKeyword_put]
  refine .ite (fun hstart => ?_) (fun _ => alike_stuckAt ts)
  obtain ⟨t, rest, rfl⟩ := exists_of_startsWithKeyword hstart
  exact .read () hts.of_cons (Nat.le_refl _)

theorem alike_symbol (hw : w ≠ ";") (hts : Unended ts) :
    Alike p id (ts.length - 1) (symbol w ts) (symbol w (p.put ts)) := by
  unfold symbol
  rw [startsWithSymbol_put hw]
  refine .ite (fun hstart => ?_) (fun _ => alike_stuckAt ts)
  obtain ⟨t, rest, rfl⟩ := exists_of_startsWithSymbol hstart
  exact .read () hts.of_cons (Nat.le_refl _)

/-- No name is a terminator. -/
theorem name?_of_terminator (h : t.isSymbol ";" = true) : t.name? = none := by
  rw [Token.name?, kind_of_terminator h]

/-- Whether a reader needs tokens: it is stuck where there are none, and at a terminator. -/
structure Needs (reader : Reader α) : Prop where
  nil : reader [] = .error .incomplete
  terminator {t : Token} (h : t.isSymbol ";" = true) (rest : List Token) :
    reader (t :: rest) = .error (stuckAt (t :: rest))

theorem Needs.alike {g : α → α} {n : Nat} {reader reader' : Reader α} (h : Needs reader)
    (h' : Needs reader') : Alike p g n (reader []) (reader' (p.put [])) := by
  have hstuck : reader' (p.put []) = .error (stuckAt p.after) := by
    show reader' p.after = _
    rcases after_eq p with hafter | ⟨t, rest, hafter, ht⟩
    · rw [hafter, h'.nil]
      rfl
    · rw [hafter, h'.terminator ht]
  rw [h.nil, hstuck]
  exact .short

/-- Readings that take fuel are alike if each of them is, given that those of fewer tokens are:
there is fuel for each token. -/
theorem alike_of_fuel {ι : Type} {g : α → α} {n : Nat} (r r' : ι → Nat → Reader α)
    (hneeds : ∀ i fuel, Needs (r i fuel)) (hneeds' : ∀ i fuel, Needs (r' i fuel))
    (step : ∀ i fuel fuel' ts, Unended ts → ts.length ≤ n →
      (∀ j rest, Unended rest → rest.length < ts.length →
        Alike p g rest.length (r j fuel rest) (r' j fuel' (p.put rest))) →
      Alike p g ts.length (r i (fuel + 1) ts) (r' i (fuel' + 1) (p.put ts)))
    (i : ι) {fuel fuel' : Nat} (hts : Unended ts) (hn : ts.length ≤ n) (hfuel : ts.length ≤ fuel)
    (hfuel' : ts.length ≤ fuel') :
    Alike p g ts.length (r i fuel ts) (r' i fuel' (p.put ts)) := by
  -- Where the fuel ends no token is left, and then both readings need one.
  induction fuel generalizing i fuel' ts with
  | zero =>
    obtain rfl := List.length_eq_zero_iff.1 (Nat.le_zero.1 hfuel)
    exact (hneeds i 0).alike (hneeds' i fuel')
  | succ fuel ih =>
    cases fuel' with
    | zero =>
      obtain rfl := List.length_eq_zero_iff.1 (Nat.le_zero.1 hfuel')
      exact (hneeds i _).alike (hneeds' i 0)
    | succ fuel' =>
      exact step i fuel fuel' ts hts hn fun j rest hrest hless =>
        ih j hrest (by omega) (by omega) (by omega)

theorem needs_readName : Needs readName where
  nil := rfl
  terminator h ts := by rw [readName, name?_of_terminator h]

theorem alike_readName (hts : Unended ts) :
    Alike p id (ts.length - 1) (readName ts) (readName (p.put ts)) := by
  cases ts with
  | nil => exact needs_readName.alike needs_readName
  | cons t ts =>
    have hstuck := alike_stuckAt (p := p) (g := id) (α := String) (n := ts.length) (t :: ts)
    have hmoved : (t.shifted p.start).name? = t.name? := rfl
    show Alike p id ts.length (readName (t :: ts)) (readName (t.shifted p.start :: p.put ts))
    rw [readName, readName, hmoved]
    cases t.name? with
    | none => exact hstuck
    | some name => exact .read name hts.of_cons (Nat.le_refl _)

/-- Where the first of some tokens begins, if there is any. -/
def offsetAt (ts : List Token) : Nat := (ts.head?.map Token.offset).getD 0

theorem offsetAt_put {name : String} {rest : List Token} (h : readName ts = .ok (name, rest)) :
    offsetAt (p.put ts) = p.start + offsetAt ts := by
  cases ts with
  | nil => cases h
  | cons t ts => rfl

theorem alike_readTableName (hts : Unended ts) :
    Alike p (TableName.shifted p.start) (ts.length - 1) (readTableName ts)
      (readTableName (p.put ts)) := by
  refine .bind (alike_readName hts) fun first rest hrest hlength hfirst => ?_
  have hstart := offsetAt_put (p := p) hfirst
  rw [offsetAt, offsetAt] at hstart
  dsimp only
  rw [startsWithSymbol_put (by decide), hstart]
  refine .ite (fun hpoint => ?_) (fun _ => .read (TableName.mk none first _ _) hrest hlength)
  obtain ⟨point, rest, rfl⟩ := exists_of_startsWithSymbol hpoint
  have hname := alike_readName (p := p) hrest.of_cons
  refine .bind hname fun second rest' hrest' hlength' hsecond => ?_
  have hsecond : readName rest = .ok (second, rest') := hsecond
  have hoffset := offsetAt_put (p := p) hsecond
  rw [offsetAt, offsetAt] at hoffset
  show Alike p _ _ _ (.ok ((⟨some first, second, _, ((p.put rest).head?.map Token.offset).getD 0⟩ :
    TableName), p.put rest'))
  rw [hoffset]
  rw [List.length_cons] at hlength
  exact .read (TableName.mk (some first) second _ _) hrest' (hlength'.trans (by omega))

theorem optionalKeyword_put (hts : Unended ts) :
    optionalKeyword w (p.put ts) = Prod.map id p.put (optionalKeyword w ts) ∧
      Unended (optionalKeyword w ts).2 ∧ (optionalKeyword w ts).2.length ≤ ts.length := by
  unfold optionalKeyword
  rw [startsWithKeyword_put]
  by_cases hstart : startsWithKeyword w ts = true
  · obtain ⟨t, rest, rfl⟩ := exists_of_startsWithKeyword hstart
    rw [if_pos hstart, if_pos hstart]
    exact ⟨rfl, hts.of_cons, Nat.le_succ _⟩
  · rw [if_neg hstart, if_neg hstart]
    exact ⟨rfl, hts, Nat.le_refl _⟩

/-- Tokens without the first, if that has a property. -/
def skipIf (q : Token → Bool) (ts : List Token) : List Token :=
  match ts with
  | t :: rest => if q t then rest else ts
  | [] => ts

theorem skipIf_put {q : Token → Bool} (hterminator : ∀ t, t.isSymbol ";" = true → q t = false)
    (hshifted : ∀ start t, q (Token.shifted start t) = q t) (hts : Unended ts) :
    skipIf q (p.put ts) = p.put (skipIf q ts) ∧ Unended (skipIf q ts) ∧
      (skipIf q ts).length ≤ ts.length := by
  cases ts with
  | nil =>
    refine ⟨?_, hts, Nat.le_refl _⟩
    show skipIf q p.after = p.after
    rcases after_eq p with hafter | ⟨t, rest, hafter, ht⟩
    · rw [hafter]
      rfl
    · rw [hafter, skipIf, hterminator t ht]
      rfl
  | cons t ts =>
    show (if q (t.shifted p.start) then p.put ts else p.put (t :: ts)) = _ ∧ _
    rw [hshifted]
    by_cases hq : q t = true
    · rw [skipIf, if_pos hq, if_pos hq]
      exact ⟨rfl, hts.of_cons, Nat.le_succ _⟩
    · rw [skipIf, if_neg hq, if_neg hq]
      exact ⟨rfl, hts, Nat.le_refl _⟩

/-! ## Expressions -/

theorem literal?_of_terminator (h : t.isSymbol ";" = true) : t.literal? = none := by
  rw [Token.literal?, kind_of_terminator h]

theorem needs_readExpr (fuel : Nat) : Needs (readExpr fuel) where
  nil := by cases fuel <;> rfl
  terminator {t} h ts := by
    cases fuel with
    | zero => rfl
    | succ fuel =>
      rw [readExpr.eq_def]
      simp only [isSymbol_of_terminator h (by decide : "-" ≠ ";"),
        isSymbol_of_terminator h (by decide : "+" ≠ ";"),
        isSymbol_of_terminator h (by decide : "(" ≠ ";"), literal?_of_terminator h,
        needs_readName.terminator h]
      rfl

/-- Reads what follows a minus. -/
def readNegated (fuel : Nat) : Reader Expr := fun ts =>
  match ts with
  | u :: more =>
    if u.kind = .integer then
      match Numeral.read? u.lexeme with
      | some (n, _) => .ok (.literal (n.value true), more)
      | none => .error (stuckAt ts)
    else do
      let (e, rest) ← readExpr fuel ts
      return (.negate e, rest)
  | [] => .error .incomplete

theorem needs_readNegated (fuel : Nat) : Needs (readNegated fuel) where
  nil := rfl
  terminator {t} h ts := by
    rw [readNegated, if_neg (by rw [kind_of_terminator h]; exact nofun),
      (needs_readExpr fuel).terminator h]
    rfl

theorem alike_readNegated {fuel fuel' : Nat} (hts : Unended ts)
    (h : Alike p (Expr.shifted p.start) ts.length (readExpr fuel ts) (readExpr fuel' (p.put ts))) :
    Alike p (Expr.shifted p.start) ts.length (readNegated fuel ts)
      (readNegated fuel' (p.put ts)) := by
  cases ts with
  | nil => exact (needs_readNegated fuel).alike (needs_readNegated fuel')
  | cons u more =>
    have hstuck := alike_stuckAt (p := p) (g := Expr.shifted p.start) (n := (u :: more).length)
      (u :: more)
    refine .ite (fun _ => ?_) (fun _ => ?_)
    · show Alike p _ _ (match Numeral.read? u.lexeme with | some (n, _) => _ | none => _)
        (match Numeral.read? u.lexeme with | some (n, _) => _ | none => _)
      cases Numeral.read? u.lexeme with
      | some read => exact .read (Expr.literal (read.1.value true)) hts.of_cons (Nat.le_succ _)
      | none => exact hstuck
    · exact .bind h fun e rest hrest hlength _ => .read (Expr.negate e) hrest hlength

/-- Reads a literal or a column. -/
def readOperand : Reader Expr := fun ts =>
  match ts with
  | t :: rest =>
    match t.literal? with
    | some v => .ok (.literal v, rest)
    | none => do
      let (first, after) ← readName ts
      if startsWithSymbol "." after then
        let (second, after) ← readName after.tail
        return (.column (some first) second false t.offset, after)
      else return (.column none first (t.kind = .quoted) t.offset, after)
  | [] => .error .incomplete

theorem alike_readOperand (hts : Unended (t :: ts)) :
    Alike p (Expr.shifted p.start) (ts.length + 1) (readOperand (t :: ts))
      (readOperand (p.put (t :: ts))) := by
  show Alike p _ _ (match t.literal? with | some v => _ | none => _)
    (match t.literal? with | some v => _ | none => _)
  cases t.literal? with
  | some v => exact .read (Expr.literal v) hts.of_cons (Nat.le_succ _)
  | none =>
    refine .bind (alike_readName hts) fun first rest hrest hlength _ => ?_
    rw [List.length_cons] at hlength
    dsimp only
    rw [startsWithSymbol_put (by decide)]
    refine .ite (fun hpoint => ?_) fun _ => .read (Expr.column none first _ _) hrest (by omega)
    obtain ⟨point, rest, rfl⟩ := exists_of_startsWithSymbol hpoint
    rw [List.length_cons] at hlength
    have hname := alike_readName (p := p) hrest.of_cons
    refine .bind hname fun second rest' hrest' hlength' _ => ?_
    exact .read (Expr.column (some first) second false _) hrest' (hlength'.trans (by omega))

theorem alike_readExpr {fuel fuel' : Nat} (hts : Unended ts) (hfuel : ts.length ≤ fuel)
    (hfuel' : ts.length ≤ fuel') : Alike p (Expr.shifted p.start) ts.length (readExpr fuel ts)
      (readExpr fuel' (p.put ts)) := by
  refine alike_of_fuel (fun _ : Unit => readExpr) (fun _ => readExpr) (fun _ => needs_readExpr)
    (fun _ => needs_readExpr) (fun _ fuel fuel' ts hts _ ih => ?_) () hts (Nat.le_refl _) hfuel
    hfuel'
  show Alike p _ _ (readExpr (fuel + 1) ts) (readExpr (fuel' + 1) (p.put ts))
  cases ts with
  | nil => exact (needs_readExpr _).alike (needs_readExpr _)
  | cons t ts =>
    have hinner := ih () ts hts.of_cons (Nat.lt_succ_self _)
    show Alike p _ _ _ (readExpr (fuel' + 1) (t.shifted p.start :: p.put ts))
    rw [readExpr.eq_def (fuel + 1), readExpr.eq_def (fuel' + 1)]
    refine .ite (fun _ => ?_) fun _ => .ite (fun _ => ?_) fun _ =>
      .ite (fun _ => ?_) fun _ => ?_
    · exact (alike_readNegated hts.of_cons hinner).mono (Nat.le_succ _)
    · exact hinner.mono (Nat.le_succ _)
    · refine .bind hinner fun e rest hrest hlength _ => ?_
      refine .bind (alike_symbol (by decide) hrest) fun _ rest' hrest' hlength' _ => ?_
      exact .read e hrest' (by rw [List.length_cons]; omega)
    · exact alike_readOperand hts

theorem needs_commaList {item : Reader α} (h : Needs item) (fuel : Nat) :
    Needs (commaList item fuel) where
  nil := by
    cases fuel with
    | zero => rfl
    | succ fuel =>
      rw [commaList, h.nil]
      rfl
  terminator ht ts := by
    cases fuel with
    | zero => rfl
    | succ fuel =>
      rw [commaList, h.terminator ht]
      rfl

/-- Items between commas are alike if each is. -/
theorem alike_commaList {g : α → α} {item item' : Reader α} {n fuel fuel' : Nat}
    (hitem : ∀ ts, Unended ts → ts.length ≤ n →
      Alike p g ts.length (item ts) (item' (p.put ts)))
    (hneeds : Needs item) (hneeds' : Needs item')
    (hts : Unended ts) (hn : ts.length ≤ n) (hfuel : ts.length ≤ fuel)
    (hfuel' : ts.length ≤ fuel') : Alike p (List.map g) ts.length (commaList item fuel ts)
      (commaList item' fuel' (p.put ts)) := by
  refine alike_of_fuel (fun _ : Unit => commaList item) (fun _ => commaList item')
    (fun _ => needs_commaList hneeds) (fun _ => needs_commaList hneeds')
    (fun _ fuel fuel' ts hts hn ih => ?_) () hts hn hfuel hfuel'
  refine .bind (hitem ts hts hn) fun a rest hrest hlength _ => ?_
  dsimp only
  rw [startsWithSymbol_put (by decide)]
  refine .ite (fun hcomma => ?_) fun _ => .read [a] hrest hlength
  obtain ⟨comma, rest, rfl⟩ := exists_of_startsWithSymbol hcomma
  rw [List.length_cons] at hlength
  have hmore := ih () rest hrest.of_cons (by omega)
  refine .bind hmore fun as rest' hrest' hlength' _ => ?_
  exact .read (a :: as) hrest' (hlength'.trans (by omega))

theorem length_le_put : ts.length ≤ (p.put ts).length := by
  rw [Place.put, List.length_append, List.length_map]
  exact Nat.le_add_right _ _

theorem alike_readExprs (hts : Unended ts) :
    Alike p (List.map (Expr.shifted p.start)) ts.length (readExprs ts) (readExprs (p.put ts)) :=
  alike_commaList (fun _ hus hlength => alike_readExpr hus hlength
      (Nat.le_trans hlength length_le_put)) (needs_readExpr _) (needs_readExpr _) hts
    (Nat.le_refl _) (Nat.le_refl _) length_le_put

theorem alike_readNames (hts : Unended ts) :
    Alike p id ts.length (readNames ts) (readNames (p.put ts)) := by
  rw [← List.map_id_fun (α := String)]
  exact alike_commaList (fun _ hus _ => (alike_readName hus).mono (Nat.sub_le _ _)) needs_readName
    needs_readName hts (Nat.le_refl _) (Nat.le_refl _) length_le_put

end SqlReplay.Sql
