import Mathlib.Data.List.Basic
import SqlReplay.Sql.Token

/-!
# Stretches of a text do not depend on what comes after them

What a text begins with is known once the characters behind it are, and it stays the same if the
text ends anywhere behind it (`lexemeAt_append`): each kind of stretch is followed to its end.
-/

namespace SqlReplay.Sql

variable {c : Char} {x y : List Char} {n : Nat}

/-! ## Runs -/

theorem runLength_append {p : Char → Bool} (h : runLength p (x ++ y) ≤ x.length) :
    runLength p (x ++ y) = runLength p x := by
  unfold runLength at h ⊢
  rw [List.takeWhile_append] at h ⊢
  split at h
  · rw [if_pos ‹_›]
    rw [List.length_append] at h ⊢
    omega
  · rw [if_neg ‹_›]

/-! ## Quoted stretches and comments -/

theorem one_le_of_quotedLength? {q : Char} (h : quotedLength? q x = some n) : 1 ≤ n := by
  cases x with
  | nil => cases h
  | cons c x =>
    cases x with
    | nil => grind [quotedLength?]
    | cons d x => grind [quotedLength?, Option.map_eq_some_iff]

theorem quotedLength?_append {q : Char} (h : quotedLength? q (x ++ y) = some n)
    (hn : n ≤ x.length) : quotedLength? q x = some n := by
  induction x using quotedLength?.induct q generalizing n with
  | case1 =>
    have hone := one_le_of_quotedLength? h
    exact absurd hn (by rw [List.length_nil]; omega)
  | case2 =>
    cases y with
    | nil => exact h
    | cons d y =>
      have hone : n = 1 := by
        have := one_le_of_quotedLength? h
        rw [List.length_singleton] at hn
        omega
      subst hone
      exact if_pos rfl
  | case3 c hc =>
    cases y with
    | nil => exact h
    | cons d y =>
      have h : quotedLength? q (c :: d :: y) = some n := h
      rw [quotedLength?, if_neg hc, Option.map_eq_some_iff] at h
      obtain ⟨m, hm, rfl⟩ := h
      have := one_le_of_quotedLength? hm
      rw [List.length_singleton] at hn
      omega
  | case4 cs ih =>
    have h : quotedLength? q (q :: q :: (cs ++ y)) = some n := h
    rw [quotedLength?, if_pos rfl, if_pos rfl, Option.map_eq_some_iff] at h ⊢
    obtain ⟨m, hm, rfl⟩ := h
    exact ⟨m, ih hm (by rw [List.length_cons, List.length_cons] at hn; omega), rfl⟩
  | case5 d cs hd =>
    have h : quotedLength? q (q :: d :: (cs ++ y)) = some n := h
    rw [quotedLength?, if_pos rfl, if_neg hd] at h ⊢
    exact h
  | case6 c d cs hc ih =>
    have h : quotedLength? q (c :: d :: (cs ++ y)) = some n := h
    rw [quotedLength?, if_neg hc, Option.map_eq_some_iff] at h ⊢
    obtain ⟨m, hm, rfl⟩ := h
    exact ⟨m, ih hm (by rw [List.length_cons] at hn; omega), rfl⟩

theorem one_le_commentLength (c : Char) (x : List Char) : 1 ≤ commentLength (c :: x) := by
  cases x with
  | nil => exact Nat.le_refl _
  | cons d x =>
    rw [commentLength]
    split <;> omega

theorem commentLength_append (h : commentLength (x ++ y) ≤ x.length) :
    commentLength (x ++ y) = commentLength x := by
  induction x using commentLength.induct with
  | case1 =>
    cases y with
    | nil => rfl
    | cons d y =>
      have := one_le_commentLength d y
      exact absurd h (by rw [List.length_nil, List.nil_append]; omega)
  | case2 c =>
    cases y with
    | nil => rfl
    | cons d y =>
      have := one_le_commentLength d y
      have h : commentLength (c :: d :: y) ≤ 1 := h
      rw [commentLength] at h
      split at h <;> omega
  | case3 c d cs hend =>
    show commentLength (c :: d :: (cs ++ y)) = _
    rw [commentLength, commentLength, if_pos hend, if_pos hend]
  | case4 c d cs hend ih =>
    have h : commentLength (c :: d :: (cs ++ y)) ≤ cs.length + 2 := h
    show commentLength (c :: d :: (cs ++ y)) = _
    rw [commentLength, if_neg hend] at h ⊢
    rw [commentLength, if_neg hend]
    have h : 1 + commentLength ((d :: cs) ++ y) ≤ cs.length + 2 := h
    rw [← ih (by rw [List.length_cons]; omega)]
    rfl

/-! ## Numbers -/

theorem exponentLength_append (h : exponentLength (x ++ y) ≤ x.length) :
    exponentLength (x ++ y) = exponentLength x := by
  match x with
  | [] => exact Nat.le_zero.1 h
  | [e] =>
    cases y with
    | nil => rfl
    | cons s y =>
      -- An exponent that goes on after its letter is longer than one character.
      have h : exponentLength (e :: s :: y) ≤ 1 := h
      show exponentLength (e :: s :: y) = _
      simp only [exponentLength] at h ⊢
      split_ifs at h ⊢ <;> omega
  | e :: s :: x =>
    have h : exponentLength (e :: s :: (x ++ y)) ≤ x.length + 2 := h
    show exponentLength (e :: s :: (x ++ y)) = _
    have hsigned : runLength Char.isDigit (x ++ y) ≤ x.length →
        runLength Char.isDigit (x ++ y) = runLength Char.isDigit x := runLength_append
    have hplain : runLength Char.isDigit (s :: (x ++ y)) ≤ (s :: x).length →
        runLength Char.isDigit (s :: (x ++ y)) = runLength Char.isDigit (s :: x) :=
      runLength_append (x := s :: x)
    rw [List.length_cons] at hplain
    simp only [exponentLength] at h ⊢
    split_ifs at h ⊢ <;> omega

/-- A number of the given length with the name characters that are glued to it. -/
def glued (x : List Char) (kind : TokenKind) (n : Nat) : TokenKind × Nat :=
  if runLength isWordChar (x.drop n) = 0 then (kind, n)
  else (.illegal, n + runLength isWordChar (x.drop n))

theorem le_glued (kind : TokenKind) : n ≤ (glued x kind n).2 := by
  unfold glued
  split
  · exact Nat.le_refl _
  · exact Nat.le_add_right _ _

theorem glued_append {kind : TokenKind} (h : (glued (x ++ y) kind n).2 ≤ x.length) :
    glued (x ++ y) kind n = glued x kind n := by
  have hn := Nat.le_trans (le_glued kind) h
  have hdrop : (x ++ y).drop n = x.drop n ++ y := List.drop_append_of_le_length hn
  have hsame : runLength isWordChar ((x ++ y).drop n) = runLength isWordChar (x.drop n) := by
    rw [hdrop]
    apply runLength_append
    unfold glued at h
    rw [hdrop] at h
    rw [List.length_drop]
    split at h <;> omega
  unfold glued
  rw [hsame]

/-- The length of a fraction with its point, zero if there is none. -/
def fractionLength : List Char → Nat
  | '.' :: rest => 1 + runLength Char.isDigit rest
  | _ => 0

theorem fractionLength_append (h : fractionLength (x ++ y) ≤ x.length) :
    fractionLength (x ++ y) = fractionLength x := by
  cases x with
  | nil => exact Nat.le_zero.1 h
  | cons c x =>
    by_cases hc : c = '.'
    · subst hc
      have h : 1 + runLength Char.isDigit (x ++ y) ≤ x.length + 1 := h
      show 1 + runLength Char.isDigit (x ++ y) = 1 + runLength Char.isDigit x
      rw [runLength_append (by omega)]
    · rw [List.cons_append, fractionLength.eq_2 _ (by rintro _ ⟨⟩; exact hc rfl),
        fractionLength.eq_2 _ (by rintro _ ⟨⟩; exact hc rfl)]

theorem decimal_eq (x : List Char) (glue : TokenKind → Nat → TokenKind × Nat) :
    numberLexeme.decimal x glue =
      let whole := runLength Char.isDigit x
      let fraction := fractionLength (x.drop whole)
      let exponent := exponentLength (x.drop (whole + fraction))
      glue (if fraction = 0 && exponent = 0 then .integer else .real)
        (whole + fraction + exponent) := rfl

theorem decimal_append
    (h : (numberLexeme.decimal (x ++ y) (glued (x ++ y))).2 ≤ x.length) :
    numberLexeme.decimal (x ++ y) (glued (x ++ y)) = numberLexeme.decimal x (glued x) := by
  rw [decimal_eq] at h ⊢
  have hlength := Nat.le_trans (le_glued _) h
  dsimp only at h ⊢
  have hwhole := runLength_append (p := Char.isDigit) (x := x) (y := y) (by omega)
  rw [hwhole] at h hlength ⊢
  have hrest : (x ++ y).drop (runLength Char.isDigit x) = x.drop (runLength Char.isDigit x) ++ y :=
    List.drop_append_of_le_length (by omega)
  have hfraction : fractionLength ((x ++ y).drop (runLength Char.isDigit x)) =
      fractionLength (x.drop (runLength Char.isDigit x)) := by
    rw [hrest] at hlength ⊢
    exact fractionLength_append (by rw [List.length_drop]; omega)
  rw [hfraction] at h hlength ⊢
  have hexponent : exponentLength ((x ++ y).drop (runLength Char.isDigit x +
      fractionLength (x.drop (runLength Char.isDigit x)))) =
      exponentLength (x.drop (runLength Char.isDigit x +
        fractionLength (x.drop (runLength Char.isDigit x)))) := by
    rw [List.drop_append_of_le_length (by omega)] at hlength ⊢
    exact exponentLength_append (by rw [List.length_drop]; omega)
  rw [hexponent] at h ⊢
  rw [glued_append h]
  rfl

theorem numberLexeme_of_decimal (h : ∀ (z d : Char) (rest : List Char), x = '0' :: z :: d :: rest →
      ¬((z = 'x' ∨ z = 'X') ∧ isHexDigit d)) :
    numberLexeme x = numberLexeme.decimal x (glued x) := by
  unfold numberLexeme
  split
  · rw [if_neg (h _ _ _ rfl)]
    rfl
  · rfl

theorem numberLexeme_of_hexadecimal {z d : Char} (h : (z = 'x' ∨ z = 'X') ∧ isHexDigit d) :
    numberLexeme ('0' :: z :: d :: x) =
      glued ('0' :: z :: d :: x) .hexadecimal (3 + runLength isHexDigit x) :=
  if_pos h

theorem numberLexeme_append (h : (numberLexeme (x ++ y)).2 ≤ x.length) :
    numberLexeme (x ++ y) = numberLexeme x := by
  by_cases hhex : ∃ (z d : Char) (rest : List Char), x ++ y = '0' :: z :: d :: rest ∧
      (z = 'x' ∨ z = 'X') ∧ isHexDigit d
  · obtain ⟨z, d, rest, hxy, hdigits⟩ := hhex
    rw [hxy, numberLexeme_of_hexadecimal hdigits] at h
    have hlong : 3 + runLength isHexDigit rest ≤ x.length := Nat.le_trans (le_glued _) h
    obtain ⟨more, rfl⟩ : ∃ more, x = '0' :: z :: d :: more := by
      have hprefix : ['0', z, d] <+: x :=
        List.prefix_of_prefix_length_le (hxy ▸ ⟨rest, rfl⟩) (List.prefix_append x y)
          (by show 3 ≤ x.length; omega)
      obtain ⟨more, hmore⟩ := hprefix
      exact ⟨more, hmore.symm⟩
    have hsame : ['0', z, d] ++ (more ++ y) = ['0', z, d] ++ rest := hxy
    obtain rfl : more ++ y = rest := List.append_cancel_left hsame
    rw [hxy, numberLexeme_of_hexadecimal hdigits, numberLexeme_of_hexadecimal hdigits]
    have hsame := runLength_append (p := isHexDigit) (x := more) (y := y)
      (by rw [List.length_cons, List.length_cons, List.length_cons] at hlong; omega)
    rw [hsame] at h ⊢
    exact glued_append (x := '0' :: z :: d :: more) h
  · have hdecimal : ∀ w : List Char, (∃ v, x ++ y = w ++ v) →
        numberLexeme w = numberLexeme.decimal w (glued w) := by
      rintro w ⟨v, hv⟩
      apply numberLexeme_of_decimal
      rintro z d rest rfl hdigits
      exact hhex ⟨z, d, rest ++ v, hv, hdigits⟩
    rw [hdecimal (x ++ y) ⟨[], (List.append_nil _).symm⟩] at h ⊢
    rw [hdecimal x ⟨y, rfl⟩]
    exact decimal_append h

/-! ## Blobs -/

/-- The length of what follows the digits of a blob, and what it is then. -/
def closeBlob (n : Nat) (rest : List Char) : TokenKind × Nat :=
  match rest with
  | '\'' :: _ => if n % 2 = 0 then (.blob, 3 + n) else (.illegal, 3 + n)
  | rest =>
    let more := runLength (· ≠ '\'') rest
    (.illegal, 2 + n + more + (if (rest.drop more).isEmpty then 0 else 1))

theorem blobLexeme_eq (c q : Char) (x : List Char) : blobLexeme (c :: q :: x) =
    closeBlob (runLength isHexDigit x) (x.drop (runLength isHexDigit x)) := rfl

theorem le_closeBlob (n : Nat) (x : List Char) : 2 + n ≤ (closeBlob n x).2 := by
  unfold closeBlob
  split
  · split <;> dsimp only <;> omega
  · dsimp only
    omega

theorem closeBlob_append (h : (closeBlob n (x ++ y)).2 ≤ x.length + 2 + n) :
    closeBlob n (x ++ y) = closeBlob n x := by
  by_cases hquote : ∃ rest, x ++ y = '\'' :: rest
  · obtain ⟨rest, hrest⟩ := hquote
    rw [hrest] at h ⊢
    cases x with
    | nil =>
      have hlong : 3 + n ≤ (closeBlob n ('\'' :: rest)).2 := by
        show 3 + n ≤ (if n % 2 = 0 then (TokenKind.blob, 3 + n) else (.illegal, 3 + n)).2
        split <;> exact Nat.le_refl _
      rw [List.length_nil] at h
      omega
    | cons d x =>
      cases hrest
      rfl
  · have hx : ∀ rest, x = '\'' :: rest → False := fun rest hx => hquote ⟨rest ++ y, by rw [hx]; rfl⟩
    have hxy : ∀ rest, x ++ y = '\'' :: rest → False := fun rest hrest => hquote ⟨rest, hrest⟩
    rw [closeBlob.eq_2 _ _ hxy] at h ⊢
    rw [closeBlob.eq_2 _ _ hx]
    dsimp only at h ⊢
    have hsame := runLength_append (p := (· ≠ '\'')) (x := x) (y := y) (by omega)
    rw [hsame] at h ⊢
    rw [List.drop_append_of_le_length (by omega)] at h ⊢
    -- The closing quote is within the first part, unless there is nothing else.
    cases y with
    | nil => rw [List.append_nil]
    | cons d y =>
      have hrest : ((x.drop (runLength (· ≠ '\'') x)) ++ d :: y).isEmpty = false := by
        rw [List.isEmpty_eq_false_iff]
        exact List.append_ne_nil_of_right_ne_nil _ (List.cons_ne_nil d y)
      rw [hrest] at h ⊢
      have hquote : (x.drop (runLength (· ≠ '\'') x)).isEmpty = false := by
        rw [List.isEmpty_eq_false_iff, ← List.length_pos_iff, List.length_drop]
        rw [if_neg Bool.false_ne_true] at h
        omega
      rw [hquote]

theorem blobLexeme_append {q : Char} (h : (blobLexeme (c :: q :: (x ++ y))).2 ≤ x.length + 2) :
    blobLexeme (c :: q :: (x ++ y)) = blobLexeme (c :: q :: x) := by
  rw [blobLexeme_eq] at h ⊢
  have hdigits := Nat.le_trans (le_closeBlob _ _) h
  have hsame := runLength_append (p := isHexDigit) (x := x) (y := y) (by omega)
  rw [hsame] at h hdigits ⊢
  rw [List.drop_append_of_le_length (by omega)] at h ⊢
  rw [blobLexeme_eq]
  exact closeBlob_append (by rw [List.length_drop]; omega)

/-! ## Parameters -/

/-- The next character of a part of a text is that of the text, or there is none. -/
theorem head?_drop_append (p : Char)
    (h : ((x ++ y).drop n).head? = some p → n < x.length) :
    (((x ++ y).drop n).head? = some p) = ((x.drop n).head? = some p) := by
  rw [List.head?_drop, List.head?_drop] at *
  by_cases hlt : n < x.length
  · rw [List.getElem?_append_left hlt]
  · have hnone : x[n]? = none := List.getElem?_eq_none (Nat.le_of_not_lt hlt)
    rw [hnone]
    exact propext (iff_of_false (fun hp => hlt (h hp)) nofun)

theorem argumentsLexeme_append (h : (argumentsLexeme (x ++ y)).2 ≤ x.length) :
    argumentsLexeme (x ++ y) = argumentsLexeme x := by
  unfold argumentsLexeme at h ⊢
  dsimp only at h ⊢
  have hsame : runLength (fun c => !isSqlSpace c && c ≠ ')') (x ++ y) =
      runLength (fun c => !isSqlSpace c && c ≠ ')') x := by
    apply runLength_append
    split at h <;> dsimp only at h <;> omega
  rw [hsame] at h ⊢
  generalize runLength (fun c => !isSqlSpace c && c ≠ ')') x = n at h ⊢
  have hhead : (((x ++ y).drop n).head? = some ')') = ((x.drop n).head? = some ')') := by
    apply head?_drop_append
    intro hclose
    rw [if_pos hclose] at h
    exact h
  simp only [hhead]

theorem parameterLexeme_eq_of_short {named : Bool} (h : (parameterLexeme named x).2 = 0) :
    parameterLexeme named x = parameterLexeme named [] := by
  cases x using parameterLexeme.fun_cases named with
  | case1 cs =>
    rw [parameterLexeme] at h
    cases h
  | case2 c cs hcolons hword =>
    rw [parameterLexeme.eq_2 _ _ _ hcolons, if_pos hword] at h
    cases h
  | case3 c cs hcolons hword harguments =>
    rw [parameterLexeme.eq_2 _ _ _ hcolons, if_neg hword, if_pos harguments] at h
    cases h
  | case4 c cs hcolons hword harguments =>
    rw [parameterLexeme.eq_2 _ _ _ hcolons, if_neg hword, if_neg harguments, parameterLexeme]
  | case5 => rfl

/-- Two colons are taken together, so a text that is cut between them has another parameter. -/
theorem not_colons_append {named : Bool}
    (hcolons : ∀ rest, c = ':' → x = ':' :: rest → False)
    (h : (parameterLexeme named (c :: (x ++ y))).2 ≤ x.length + 1) :
    ∀ rest, c = ':' → x ++ y = ':' :: rest → False := by
  rintro rest rfl hrest
  cases x with
  | nil =>
    rw [hrest, parameterLexeme] at h
    exact absurd h (Nat.not_le_of_lt (Nat.lt_add_left _ (Nat.lt_succ_self 1)))
  | cons d x =>
    obtain ⟨rfl, -⟩ := List.cons.inj hrest
    exact hcolons x rfl rfl

theorem parameterLexeme_append {named : Bool} (h : (parameterLexeme named (x ++ y)).2 ≤ x.length) :
    parameterLexeme named (x ++ y) = parameterLexeme named x := by
  induction named, x using parameterLexeme.induct with
  | case1 named x ih =>
    have h : (parameterLexeme named (x ++ y)).2 + 2 ≤ x.length + 2 := by
      rwa [List.cons_append, List.cons_append, parameterLexeme] at h
    rw [List.cons_append, List.cons_append, parameterLexeme, parameterLexeme,
      ih (Nat.le_of_add_le_add_right h)]
  | case2 named c x hcolons hword ih =>
    have hwhole := not_colons_append hcolons h
    rw [List.cons_append, parameterLexeme.eq_2 _ _ _ hwhole, if_pos hword] at h ⊢
    rw [parameterLexeme.eq_2 _ _ _ hcolons, if_pos hword, ih (Nat.le_of_succ_le_succ h)]
  | case3 named c x hcolons hword harguments =>
    have hwhole := not_colons_append hcolons h
    rw [List.cons_append, parameterLexeme.eq_2 _ _ _ hwhole, if_neg hword, if_pos harguments] at h ⊢
    rw [parameterLexeme.eq_2 _ _ _ hcolons, if_neg hword, if_pos harguments,
      argumentsLexeme_append (Nat.le_of_succ_le_succ h)]
  | case4 named c x hcolons hword harguments =>
    rw [List.cons_append, parameterLexeme.eq_2 _ _ _ (not_colons_append hcolons h), if_neg hword,
      if_neg harguments, parameterLexeme.eq_2 _ _ _ hcolons, if_neg hword, if_neg harguments]
  | case5 named => exact parameterLexeme_eq_of_short (Nat.le_zero.1 h)

/-! ## Any stretch -/

/-- What a text begins with that begins with no sign of its own. -/
def plainLexeme (c : Char) (rest : List Char) : TokenKind × Nat :=
  if isSqlSpace c && c ≠ '\x0b' then (.blank, 1 + runLength isSqlSpace rest)
  else if c.isDigit then numberLexeme (c :: rest)
  else if c = '.' && (rest.head?.map Char.isDigit).getD false then numberLexeme (c :: rest)
  else if (c = 'x' || c = 'X') && rest.head? = some '\'' then blobLexeme (c :: rest)
  else if isWordStart c then (.word, 1 + runLength isWordChar rest)
  else if "-()*+,./;<=>|&~%".toList.contains c then (.symbol, 1)
  else if "$@:#".toList.contains c then (parameterLexeme false rest).map id (· + 1)
  else (.illegal, 1)

theorem two_le_numberLexeme {d : Char} (hd : d.isDigit = true) (x : List Char) :
    2 ≤ (numberLexeme ('.' :: d :: x)).2 := by
  rw [numberLexeme_of_decimal (by rintro z e rest ⟨⟩), decimal_eq]
  refine Nat.le_trans ?_ (le_glued _)
  have hdigits : runLength Char.isDigit (d :: x) = runLength Char.isDigit x + 1 := by
    rw [runLength, List.takeWhile_cons_of_pos hd, List.length_cons, runLength]
  show 2 ≤ 0 + (1 + runLength Char.isDigit (d :: x)) + _
  omega

theorem two_le_blobLexeme (c q : Char) (x : List Char) : 2 ≤ (blobLexeme (c :: q :: x)).2 :=
  Nat.le_trans (Nat.le_add_right 2 _) (le_closeBlob _ _)

/-- A point before a digit begins a number. -/
theorem two_le_of_point {d : Char} (hd : d.isDigit = true) (x : List Char) :
    2 ≤ (plainLexeme '.' (d :: x)).2 := by
  unfold plainLexeme
  rw [if_neg (by decide), if_neg (by decide), if_pos (by rw [List.head?_cons]; exact hd)]
  exact two_le_numberLexeme hd x

/-- An x before a quote begins a blob. -/
theorem two_le_of_quote (hc : c = 'x' ∨ c = 'X') (x : List Char) :
    2 ≤ (plainLexeme c ('\'' :: x)).2 := by
  unfold plainLexeme
  rcases hc with rfl | rfl
  all_goals
    rw [List.head?_cons, if_neg (by decide), if_neg (by decide), if_neg (by decide),
      if_pos (by decide)]
    exact two_le_blobLexeme _ _ x

theorem plainLexeme_append_of_head
    (hpoint : (c = '.' && ((x ++ y).head?.map Char.isDigit).getD false) =
      (c = '.' && (x.head?.map Char.isDigit).getD false))
    (hblob : ((c = 'x' || c = 'X') && (x ++ y).head? = some '\'') =
      ((c = 'x' || c = 'X') && x.head? = some '\''))
    (h : (plainLexeme c (x ++ y)).2 ≤ x.length + 1) :
    plainLexeme c (x ++ y) = plainLexeme c x := by
  have hrun : ∀ p : Char → Bool, 1 + runLength p (x ++ y) ≤ x.length + 1 →
      runLength p (x ++ y) = runLength p x := fun p hp => runLength_append (by omega)
  have hnumber : (numberLexeme (c :: (x ++ y))).2 ≤ x.length + 1 →
      numberLexeme (c :: (x ++ y)) = numberLexeme (c :: x) := numberLexeme_append (x := c :: x)
  unfold plainLexeme at h ⊢
  rw [hpoint, hblob] at h ⊢
  split_ifs at h ⊢ with hblank hdigit hdecimal hquoted hword hsymbol hparameter
  · rw [hrun _ h]
  · exact hnumber h
  · exact hnumber h
  · obtain ⟨z, rfl⟩ :=
      List.head?_eq_some_iff.1 (of_decide_eq_true (Bool.and_eq_true_iff.1 hquoted).2)
    exact blobLexeme_append h
  · rw [hrun _ h]
  · rfl
  · rw [parameterLexeme_append (Nat.le_of_succ_le_succ h)]
  · rfl

theorem plainLexeme_append (h : (plainLexeme c (x ++ y)).2 ≤ x.length + 1) :
    plainLexeme c (x ++ y) = plainLexeme c x := by
  cases x with
  | cons d x => exact plainLexeme_append_of_head rfl rfl h
  | nil =>
    cases y with
    | nil => rfl
    | cons d y =>
      -- What a point or an x begins depends on the next character, which would be part of it.
      have hshort : (plainLexeme c (d :: y)).2 < 2 := Nat.lt_succ_of_le h
      refine plainLexeme_append_of_head (Bool.eq_iff_iff.2 ⟨fun hpoint => ?_, fun hpoint => ?_⟩)
        (Bool.eq_iff_iff.2 ⟨fun hblob => ?_, fun hblob => ?_⟩) h
      · obtain ⟨hc, hd⟩ := Bool.and_eq_true_iff.1 hpoint
        obtain rfl := of_decide_eq_true hc
        exact absurd (two_le_of_point hd y) (Nat.not_le_of_lt hshort)
      · exact absurd (Bool.and_eq_true_iff.1 hpoint).2 Bool.false_ne_true
      · obtain ⟨hc, hquote⟩ := Bool.and_eq_true_iff.1 hblob
        obtain rfl := Option.some.inj (of_decide_eq_true hquote)
        rw [Bool.or_eq_true, decide_eq_true_iff, decide_eq_true_iff] at hc
        exact absurd (two_le_of_quote hc y) (Nat.not_le_of_lt hshort)
      · exact absurd (of_decide_eq_true (Bool.and_eq_true_iff.1 hblob).2) nofun

/-- What an opening quote begins. -/
def quotedLexeme (kind : TokenKind) (q : Char) (rest : List Char) : TokenKind × Nat :=
  match quotedLength? q rest with
  | some n => (kind, n + 1)
  | none => (.illegal, rest.length + 1)

theorem quotedLexeme_append {kind : TokenKind} {q : Char}
    (h : (quotedLexeme kind q (x ++ y)).2 ≤ x.length + 1) :
    quotedLexeme kind q (x ++ y) = quotedLexeme kind q x := by
  unfold quotedLexeme at h ⊢
  cases hlength : quotedLength? q (x ++ y) with
  | some n =>
    rw [hlength] at h
    rw [quotedLength?_append hlength (Nat.le_of_succ_le_succ h)]
  | none =>
    rw [hlength] at h
    obtain rfl : y = [] := by
      rw [← List.length_eq_zero_iff]
      dsimp only at h
      rw [List.length_append] at h
      omega
    rw [List.append_nil] at hlength ⊢
    rw [hlength]

/-- What an opening bracket begins. -/
def bracketedLexeme (rest : List Char) : TokenKind × Nat :=
  let n := runLength (· ≠ ']') rest
  if n < rest.length then (.bracketed, n + 2) else (.illegal, n + 1)

theorem bracketedLexeme_append (h : (bracketedLexeme (x ++ y)).2 ≤ x.length + 1) :
    bracketedLexeme (x ++ y) = bracketedLexeme x := by
  unfold bracketedLexeme at h ⊢
  have hsame : runLength (· ≠ ']') (x ++ y) = runLength (· ≠ ']') x := by
    apply runLength_append
    dsimp only at h
    split at h <;> dsimp only at h <;> omega
  dsimp only at h ⊢
  rw [hsame] at h ⊢
  rw [List.length_append] at h ⊢
  split_ifs at h ⊢ <;> first | rfl | (exfalso; dsimp only at h; omega)

/-- A part of a text that is long enough has the characters that the text begins with. -/
theorem begins_of_append_eq {d : Char} {z : List Char} (h : x ++ y = d :: z) (hx : 1 ≤ x.length) :
    ∃ x', x = d :: x' ∧ z = x' ++ y := by
  cases x with
  | nil => exact absurd hx (by decide)
  | cons e x =>
    cases h
    exact ⟨x, rfl, rfl⟩

/-- What a text begins with is the same if the text ends anywhere behind that. -/
theorem lexemeAt_append (h : (lexemeAt (c :: (x ++ y))).2 ≤ x.length + 1) :
    lexemeAt (c :: (x ++ y)) = lexemeAt (c :: x) := by
  generalize hw : c :: (x ++ y) = w at h ⊢
  unfold lexemeAt at h
  dsimp only at h
  split at h
  case h_1 => cases hw
  case h_2 => cases hw; rfl
  case h_3 rest =>
    obtain ⟨rfl, hxy⟩ := List.cons.inj hw
    obtain ⟨z, rfl, rfl⟩ := begins_of_append_eq (x := x) hxy (by dsimp only at h; omega)
    show (TokenKind.blank, 2 + runLength (· ≠ '\n') (z ++ y)) = (.blank, 2 + runLength (· ≠ '\n') z)
    rw [runLength_append (by rw [List.length_cons] at h; dsimp only at h; omega)]
  case h_4 d rest =>
    have hlong := one_le_commentLength d rest
    dsimp only at h
    obtain ⟨rfl, hxy⟩ := List.cons.inj hw
    obtain ⟨z, rfl, hz⟩ := begins_of_append_eq (x := x) hxy (by omega)
    rw [List.length_cons] at h
    obtain ⟨v, rfl, rfl⟩ := begins_of_append_eq (x := z) hz.symm (by omega)
    show (TokenKind.blank, 2 + commentLength (d :: v ++ y)) = (.blank, 2 + commentLength (d :: v))
    rw [commentLength_append (by rw [List.cons_append]; omega)]
  case h_5 rest =>
    obtain ⟨rfl, rfl⟩ := List.cons.inj hw
    exact quotedLexeme_append h
  case h_6 rest =>
    obtain ⟨rfl, rfl⟩ := List.cons.inj hw
    exact quotedLexeme_append h
  case h_7 rest =>
    obtain ⟨rfl, rfl⟩ := List.cons.inj hw
    exact quotedLexeme_append h
  case h_8 rest =>
    obtain ⟨rfl, rfl⟩ := List.cons.inj hw
    exact bracketedLexeme_append h
  case h_17 rest =>
    dsimp only at h
    obtain ⟨rfl, hxy⟩ := List.cons.inj hw
    obtain ⟨z, rfl, hz⟩ := begins_of_append_eq (x := x) hxy (by omega)
    rw [List.length_cons] at h
    obtain ⟨v, rfl, rfl⟩ := begins_of_append_eq (x := z) hz.symm (by omega)
    rfl
  case h_18 rest hshort =>
    dsimp only at h
    obtain ⟨rfl, hxy⟩ := List.cons.inj hw
    obtain ⟨z, rfl, rfl⟩ := begins_of_append_eq (x := x) hxy (by omega)
    rw [lexemeAt.eq_18 _ hshort, lexemeAt.eq_18 z (by rintro v rfl; exact hshort (v ++ y) rfl)]
  case h_19 rest =>
    obtain ⟨rfl, rfl⟩ := List.cons.inj hw
    show (TokenKind.parameter, 1 + runLength Char.isDigit (x ++ y)) =
      (.parameter, 1 + runLength Char.isDigit x)
    rw [runLength_append (by dsimp only at h; omega)]
  case h_20 h1 h2 h3 h4 h5 h6 h7 h8 h9 h10 h11 h12 h13 h14 h15 h16 h17 h18 =>
    obtain ⟨rfl, rfl⟩ := List.cons.inj hw
    -- No sign begins the whole text, so none begins the part.
    have hpart : ∀ {a d : Char}, (∀ rest, c = a → x ++ y = d :: rest → False) →
        ∀ rest, c = a → x = d :: rest → False :=
      fun hno rest hc hx => hno (rest ++ y) hc (by rw [hx]; rfl)
    rw [lexemeAt.eq_20 c (x ++ y) h1 h2 h3 h4 h5 h6 h7 h8 h9 h10 h11 h12 h13 h14 h15 h16 h17 h18,
      lexemeAt.eq_20 c x h1 (hpart h2) (fun d rest hc hx => h3 d (rest ++ y) hc (by rw [hx]; rfl))
        h4 h5 h6 h7 (hpart h8) (hpart h9) (hpart h10) (hpart h11) (hpart h12) (hpart h13)
        (hpart h14) (hpart h15) (fun rest hc hx => h16 (rest ++ y) hc (by rw [hx]; rfl))
        (hpart h17) h18]
    exact plainLexeme_append h
  all_goals
    obtain ⟨rfl, hxy⟩ := List.cons.inj hw
    obtain ⟨z, rfl, rfl⟩ := begins_of_append_eq (x := x) hxy (by dsimp only at h; omega)
    rfl

end SqlReplay.Sql
