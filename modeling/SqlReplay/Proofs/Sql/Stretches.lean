import Mathlib.Data.List.DropRight
import SqlReplay.Proofs.Sql.Lexemes
import SqlReplay.Proofs.Text.Utf8
import SqlReplay.Sql.Reader

/-!
# The first statement of a text

A text is a sequence of stretches: tokens, space and comments. Its first statement begins with the
first token that is no terminator and ends with the last one before the next terminator.  Alone it
has the same stretches as in the text (`stretches_firstStatement`), and so the same tokens, but for
where they begin (`skipTerminators_scan`).
-/

namespace SqlReplay.Sql

/-- A stretch of a text with what it is. -/
structure Stretch where
  kind : TokenKind
  text : List Char
deriving DecidableEq

/-- Whether a stretch is space or a comment. -/
def Stretch.isBlank (s : Stretch) : Bool := s.kind = .blank

/-- Whether a stretch ends a statement. -/
def Stretch.isTerminator (s : Stretch) : Bool := s.kind = .symbol && s.text = [';']

/-- Whether a stretch can stand outside of any statement: space, a comment or a terminator. -/
def Stretch.isSpare (s : Stretch) : Bool := s.isBlank || s.isTerminator

/-- The number of characters that the first stretch of a text takes. -/
def firstLength (cs : List Char) : Nat := max (lexemeAt cs).2 1

/-- The stretch that a text begins with. -/
def firstStretch (cs : List Char) : Stretch := ⟨(lexemeAt cs).1, cs.take (firstLength cs)⟩

/-- The stretches of a text; `fuel` bounds their number. -/
def stretchesFrom : Nat → List Char → List Stretch
  | 0, _ => []
  | _ + 1, [] => []
  | fuel + 1, cs => firstStretch cs :: stretchesFrom fuel (cs.drop (firstLength cs))

/-- The stretches of a text. -/
def stretches (cs : List Char) : List Stretch := stretchesFrom cs.length cs

/-- What stretches say together. -/
def wording (ss : List Stretch) : List Char := ss.flatMap Stretch.text

/-- What stands before the first statement of a text. -/
def leadIn (cs : List Char) : List Stretch := (stretches cs).takeWhile Stretch.isSpare

/-- A text from its first statement on. -/
def fromStatement (cs : List Char) : List Stretch := (stretches cs).dropWhile Stretch.isSpare

/-- The first statement of a text, without what comes before it and after it. -/
def firstStatement (cs : List Char) : List Stretch :=
  ((fromStatement cs).takeWhile (!·.isTerminator)).rdropWhile Stretch.isBlank

/-- What follows the first statement of a text. -/
def afterStatement (cs : List Char) : List Stretch :=
  (fromStatement cs).drop (firstStatement cs).length

variable {cs : List Char} {ss : List Stretch}

/-! ## Stretches -/

theorem length_drop_firstLength_le (c : Char) (cs : List Char) :
    ((c :: cs).drop (firstLength (c :: cs))).length ≤ cs.length := by
  have hone : 1 ≤ firstLength (c :: cs) := Nat.le_max_right _ _
  rw [List.length_drop, List.length_cons]
  omega

theorem stretchesFrom_congr {fuel fuel' : Nat} (h : cs.length ≤ fuel) (h' : cs.length ≤ fuel') :
    stretchesFrom fuel cs = stretchesFrom fuel' cs := by
  induction fuel generalizing fuel' cs with
  | zero =>
    obtain rfl := List.length_eq_zero_iff.1 (Nat.le_zero.1 h)
    cases fuel' <;> rfl
  | succ fuel ih =>
    cases cs with
    | nil => cases fuel' <;> rfl
    | cons c cs =>
      cases fuel' with
      | zero => cases h'
      | succ fuel' =>
        have hdrop := length_drop_firstLength_le c cs
        rw [List.length_cons] at h h'
        rw [stretchesFrom, stretchesFrom, ih (by omega : _ ≤ fuel) (by omega : _ ≤ fuel')]
        · exact nofun
        · exact nofun

theorem stretches_cons (c : Char) (cs : List Char) : stretches (c :: cs) =
    firstStretch (c :: cs) :: stretches ((c :: cs).drop (firstLength (c :: cs))) :=
  congrArg _ (stretchesFrom_congr (length_drop_firstLength_le c cs) (Nat.le_refl _))

/-- Induction on the stretches of a text, from the last to the first. -/
@[elab_as_elim]
theorem stretches_induct {motive : List Char → Prop} (nil : motive [])
    (cons : ∀ c cs, motive ((c :: cs).drop (firstLength (c :: cs))) → motive (c :: cs))
    (cs : List Char) : motive cs := by
  induction h : cs.length using Nat.strong_induction_on generalizing cs with
  | _ n ih =>
    cases cs with
    | nil => exact nil
    | cons c cs =>
      apply cons
      apply ih _ ?_ _ rfl
      rw [← h]
      exact Nat.lt_succ_of_le (length_drop_firstLength_le c cs)

theorem wording_append (ss ss' : List Stretch) : wording (ss ++ ss') = wording ss ++ wording ss' :=
  List.flatMap_append

theorem wording_cons (s : Stretch) (ss : List Stretch) :
    wording (s :: ss) = s.text ++ wording ss := rfl

/-- The stretches of a text make it up. -/
theorem wording_stretches (cs : List Char) : wording (stretches cs) = cs := by
  induction cs using stretches_induct with
  | nil => rfl
  | cons c cs ih =>
    rw [stretches_cons, wording_cons, ih]
    exact List.take_append_drop _ _

/-- A text that begins where a stretch begins has the same stretches from there on. -/
theorem stretches_of_append_right {ss' : List Stretch} (h : stretches cs = ss ++ ss') :
    stretches (wording ss') = ss' := by
  induction ss generalizing cs with
  | nil =>
    have h : stretches cs = ss' := h
    rw [← h, wording_stretches]
  | cons s ss ih =>
    cases cs with
    | nil => cases h
    | cons c cs =>
      rw [stretches_cons] at h
      exact ih (List.cons.inj h).2

/-- A text that ends where a stretch ends has the same stretches up to there. -/
theorem stretches_of_append_left {ss' : List Stretch} (h : stretches cs = ss ++ ss') :
    stretches (wording ss) = ss := by
  induction ss generalizing cs with
  | nil => rfl
  | cons s ss ih =>
    cases cs with
    | nil => cases h
    | cons c cs =>
      have hall := wording_stretches (c :: cs)
      rw [h, wording_append] at hall
      obtain ⟨rfl, hrest⟩ := List.cons.inj ((stretches_cons c cs).symm.trans h)
      -- The first stretch ends within these stretches, so it is the same without the others.
      by_cases hlong : firstLength (c :: cs) ≤ (c :: cs).length
      · have hlength : (firstStretch (c :: cs)).text.length = firstLength (c :: cs) := by
          rw [firstStretch, List.length_take, Nat.min_eq_left hlong]
        obtain ⟨x, hx⟩ : ∃ x, wording (firstStretch (c :: cs) :: ss) = c :: x := by
          have hone : 0 < firstLength (c :: cs) := Nat.le_max_right _ _
          rw [wording_cons, firstStretch, List.take_cons hone]
          exact ⟨_, rfl⟩
        have hsame : lexemeAt (c :: x) = lexemeAt (c :: cs) := by
          have hlength : firstLength (c :: cs) ≤ x.length + 1 := by
            have hcount := congrArg List.length hx
            rw [wording_cons, List.length_append, List.length_cons] at hcount
            omega
          rw [hx, List.cons_append] at hall
          rw [← hall] at hlength ⊢
          exact (lexemeAt_append (Nat.le_trans (Nat.le_max_left _ _) hlength)).symm
        have hfirst : firstLength (c :: x) = firstLength (c :: cs) := by
          rw [firstLength, hsame, firstLength]
        rw [hx, stretches_cons]
        rw [firstStretch, hfirst, hsame, ← hx, wording_cons, List.take_left' hlength,
          List.drop_left' hlength, ih hrest]
        rfl
      · -- The first stretch is the whole text.
        rw [List.drop_eq_nil_of_le (by omega)] at hrest
        obtain ⟨rfl, rfl⟩ := List.nil_eq_append_iff.1 hrest
        have hall : wording [firstStretch (c :: cs)] ++ [] = c :: cs := hall
        rw [← List.append_nil (wording _), hall, h]
        rfl

/-! ## Tokens -/

/-- The tokens among stretches that begin at byte `offset`. -/
def tokensAt : Nat → List Stretch → List Token
  | _, [] => []
  | offset, s :: ss =>
    let rest := tokensAt (offset + (Utf8.encode s.text).length) ss
    if s.kind = .blank then rest else ⟨s.kind, s.text, offset⟩ :: rest

theorem scanFrom_eq (fuel offset : Nat) (cs : List Char) :
    scanFrom fuel offset cs = tokensAt offset (stretchesFrom fuel cs) := by
  induction fuel generalizing offset cs with
  | zero => rfl
  | succ fuel ih =>
    cases cs with
    | nil => rfl
    | cons c cs =>
      rw [scanFrom, stretchesFrom, tokensAt, ← ih]
      · rfl
      · exact nofun
      · exact nofun

theorem scan_eq_tokensAt (h : '\x00' ∉ cs) : scan cs = tokensAt 0 (stretches cs) := by
  have hwhole : cs.takeWhile (· ≠ '\x00') = cs := by
    rw [List.takeWhile_eq_self_iff]
    exact fun c hc => decide_eq_true fun hnul => h (hnul ▸ hc)
  rw [scan, hwhole, scanFrom_eq, stretches]

theorem tokensAt_append (offset : Nat) (ss ss' : List Stretch) : tokensAt offset (ss ++ ss') =
    tokensAt offset ss ++ tokensAt (offset + (Utf8.encode (wording ss)).length) ss' := by
  induction ss generalizing offset with
  | nil => rfl
  | cons s ss ih =>
    rw [List.cons_append, tokensAt, tokensAt, ih, wording_cons, Utf8.encode_append,
      List.length_append, Nat.add_assoc]
    split <;> rfl

/-- The token as it begins in a text that has `start` more bytes before it. -/
def Token.shifted (start : Nat) (t : Token) : Token := { t with offset := start + t.offset }

theorem tokensAt_add (start offset : Nat) (ss : List Stretch) :
    tokensAt (start + offset) ss = (tokensAt offset ss).map (Token.shifted start) := by
  induction ss generalizing offset with
  | nil => rfl
  | cons s ss ih =>
    rw [tokensAt, tokensAt, Nat.add_assoc, ih]
    split <;> rfl

theorem exists_of_mem_tokensAt {offset : Nat} {t : Token} (h : t ∈ tokensAt offset ss) :
    ∃ s ∈ ss, s.kind ≠ .blank ∧ t.kind = s.kind ∧ t.lexeme = s.text := by
  induction ss generalizing offset with
  | nil => cases h
  | cons s ss ih =>
    rw [tokensAt] at h
    split at h
    · obtain ⟨s', hs', hfound⟩ := ih h
      exact ⟨s', List.mem_cons_of_mem s hs', hfound⟩
    · next hblank =>
      rcases List.mem_cons.1 h with rfl | h
      · exact ⟨s, List.mem_cons_self, hblank, rfl, rfl⟩
      · obtain ⟨s', hs', hfound⟩ := ih h
        exact ⟨s', List.mem_cons_of_mem s hs', hfound⟩

theorem isSymbol_eq_isTerminator {t : Token} {s : Stretch} (hkind : t.kind = s.kind)
    (htext : t.lexeme = s.text) : t.isSymbol ";" = s.isTerminator := by
  rw [Token.isSymbol, Stretch.isTerminator, hkind, htext]
  rfl

/-- Terminators are all there is among stretches exactly if these can stand outside of any
statement. -/
theorem skipTerminators_tokensAt (offset : Nat) (ss : List Stretch) :
    (skipTerminators (tokensAt offset ss)).isEmpty = ss.all Stretch.isSpare := by
  induction ss generalizing offset with
  | nil => rfl
  | cons s ss ih =>
    rw [tokensAt, List.all_cons, Stretch.isSpare, Stretch.isBlank]
    split
    · next hblank => rw [ih, decide_eq_true hblank, Bool.true_or, Bool.true_and]
    · next hblank =>
      rw [decide_eq_false hblank, Bool.false_or, skipTerminators, List.dropWhile_cons,
        isSymbol_eq_isTerminator (t := ⟨s.kind, s.text, offset⟩) rfl rfl]
      cases s.isTerminator with
      | true => exact (ih _).trans (Bool.true_and _).symm
      | false => rfl

/-! ## The first statement -/

theorem afterStatement_eq (cs : List Char) : afterStatement cs =
    ((fromStatement cs).takeWhile (!·.isTerminator)).rtakeWhile Stretch.isBlank ++
      (fromStatement cs).dropWhile (!·.isTerminator) := by
  have hparts : fromStatement cs = firstStatement cs ++
      (((fromStatement cs).takeWhile (!·.isTerminator)).rtakeWhile Stretch.isBlank ++
        (fromStatement cs).dropWhile (!·.isTerminator)) := by
    rw [firstStatement, ← List.append_assoc, List.rdropWhile_append_rtakeWhile,
      List.takeWhile_append_dropWhile]
  exact (congrArg (List.drop _) hparts).trans List.drop_left

theorem stretches_eq (cs : List Char) :
    stretches cs = leadIn cs ++ (firstStatement cs ++ afterStatement cs) := by
  rw [afterStatement_eq, firstStatement, ← List.append_assoc (List.rdropWhile _ _),
    List.rdropWhile_append_rtakeWhile, List.takeWhile_append_dropWhile, leadIn, fromStatement,
    List.takeWhile_append_dropWhile]

theorem stretches_firstStatement (cs : List Char) :
    stretches (wording (firstStatement cs)) = firstStatement cs :=
  stretches_of_append_left (stretches_of_append_right (stretches_eq cs))

/-- A text has no statement exactly if all of it can stand outside of any. -/
theorem firstStatement_eq_nil_iff :
    firstStatement cs = [] ↔ (stretches cs).all Stretch.isSpare = true := by
  rw [firstStatement, List.rdropWhile_eq_nil_iff, fromStatement, List.all_eq_true]
  cases hrest : (stretches cs).dropWhile Stretch.isSpare with
  | nil => exact iff_of_true nofun (List.dropWhile_eq_nil_iff.1 hrest)
  | cons s rest =>
    have hspare : s.isSpare = false := by
      have := List.head?_dropWhile_not Stretch.isSpare (stretches cs)
      rwa [hrest] at this
    have hs : s ∈ stretches cs :=
      (List.dropWhile_suffix _).subset (hrest ▸ List.mem_cons_self)
    rw [Stretch.isSpare, Stretch.isBlank, Bool.or_eq_false_iff, decide_eq_false_iff_not] at hspare
    obtain ⟨hblank, hterminator⟩ := hspare
    refine iff_of_false (fun hall => ?_) (fun hall => ?_)
    · have hfirst : s ∈ (s :: rest).takeWhile (!·.isTerminator) := by
        rw [List.takeWhile_cons_of_pos (by rw [hterminator]; rfl)]
        exact List.mem_cons_self
      exact hblank (of_decide_eq_true (hall s hfirst))
    · have hspare := hall s hs
      rw [Stretch.isSpare, hterminator, Bool.or_false] at hspare
      exact hblank (of_decide_eq_true hspare)

theorem isTerminator_of_mem_firstStatement {s : Stretch} (hs : s ∈ firstStatement cs) :
    s.isTerminator = false := by
  have hwithin := (List.rdropWhile_prefix _ _).subset hs
  rw [← Bool.not_eq_true']
  exact List.mem_takeWhile_imp (p := (!Stretch.isTerminator ·)) hwithin

/-- A statement does not end with what can stand outside of any, so not all of it is that. -/
theorem firstStatement_eq_nil_of_spare (h : (firstStatement cs).all Stretch.isSpare = true) :
    firstStatement cs = [] := by
  have hblank : ∀ s ∈ firstStatement cs, s.isBlank = true := by
    intro s hs
    have hspare := List.all_eq_true.1 h s hs
    rwa [Stretch.isSpare, isTerminator_of_mem_firstStatement hs, Bool.or_false] at hspare
  have hdropped := List.rdropWhile_eq_nil_iff.2 hblank
  rwa [firstStatement, List.rdropWhile_idempotent] at hdropped

/-- The text of the first statement alone. -/
def statementText (cs : List Char) : List Char := wording (firstStatement cs)

/-- The byte at which the first statement begins. -/
def statementStart (cs : List Char) : Nat := (Utf8.encode (wording (leadIn cs))).length

/-- The tokens that follow the first statement. -/
def tokensAfter (cs : List Char) : List Token :=
  tokensAt (statementStart cs + (Utf8.encode (statementText cs)).length) (afterStatement cs)

theorem not_mem_statementText {c : Char} (h : c ∉ cs) : c ∉ statementText cs := by
  intro hc
  apply h
  rw [← wording_stretches cs, stretches_eq, wording_append, wording_append]
  exact List.mem_append_right _ (List.mem_append_left _ hc)

theorem scan_statementText (h : '\x00' ∉ cs) :
    scan (statementText cs) = tokensAt 0 (firstStatement cs) := by
  rw [scan_eq_tokensAt (not_mem_statementText h), statementText, stretches_firstStatement]

/-- No terminator is among the tokens of a first statement. -/
theorem not_isSymbol_of_mem_scan (h : '\x00' ∉ cs) {t : Token}
    (ht : t ∈ scan (statementText cs)) : t.isSymbol ";" = false := by
  rw [scan_statementText h] at ht
  obtain ⟨s, hs, -, hkind, htext⟩ := exists_of_mem_tokensAt ht
  rw [isSymbol_eq_isTerminator hkind htext]
  exact isTerminator_of_mem_firstStatement hs

theorem tokensAt_of_blank {offset : Nat} (h : ∀ s ∈ ss, s.kind = .blank) :
    tokensAt offset ss = [] := by
  rw [List.eq_nil_iff_forall_not_mem]
  intro t ht
  obtain ⟨s, hs, hblank, -⟩ := exists_of_mem_tokensAt ht
  exact hblank (h s hs)

/-- What follows a first statement begins with a terminator, if there is any token. -/
theorem atEnd_tokensAfter (cs : List Char) : atEnd (tokensAfter cs) = true := by
  have hblank : ∀ s ∈ ((fromStatement cs).takeWhile (!·.isTerminator)).rtakeWhile Stretch.isBlank,
      s.kind = .blank := by
    intro s hs
    have hblank : s.isBlank = true := List.mem_rtakeWhile_imp hs
    exact of_decide_eq_true hblank
  rw [tokensAfter, afterStatement_eq, tokensAt_append,
    tokensAt_of_blank hblank, List.nil_append]
  cases hrest : (fromStatement cs).dropWhile (!·.isTerminator) with
  | nil => rfl
  | cons s rest =>
    have hterminator : s.isTerminator = true := by
      have hhead := List.head?_dropWhile_not (!Stretch.isTerminator ·) (fromStatement cs)
      rw [hrest] at hhead
      have hhead : (!s.isTerminator) = false := hhead
      rwa [Bool.not_eq_false'] at hhead
    have hkind : s.kind = .symbol := of_decide_eq_true (Bool.and_eq_true_iff.1 hterminator).1
    rw [tokensAt, if_neg (by rw [hkind]; exact nofun), atEnd, List.isEmpty_cons, Bool.false_or]
    exact (isSymbol_eq_isTerminator rfl rfl).trans hterminator

/-- The tokens of a text are those of its first statement, moved to where it begins, but for
terminators before it and what follows it. -/
theorem skipTerminators_scan (h : '\x00' ∉ cs) : skipTerminators (scan cs) = skipTerminators
    ((scan (statementText cs)).map (Token.shifted (statementStart cs)) ++ tokensAfter cs) := by
  have hlead : ∀ t ∈ tokensAt 0 (leadIn cs), t.isSymbol ";" = true := by
    intro t ht
    obtain ⟨s, hs, hblank, hkind, htext⟩ := exists_of_mem_tokensAt ht
    have hspare := List.mem_takeWhile_imp hs
    rw [Stretch.isSpare, Stretch.isBlank, decide_eq_false hblank, Bool.false_or] at hspare
    rwa [isSymbol_eq_isTerminator hkind htext]
  rw [scan_eq_tokensAt h, stretches_eq, tokensAt_append, tokensAt_append, Nat.zero_add,
    skipTerminators, List.dropWhile_append_of_pos hlead, scan_statementText h, ← tokensAt_add]
  rfl

end SqlReplay.Sql
