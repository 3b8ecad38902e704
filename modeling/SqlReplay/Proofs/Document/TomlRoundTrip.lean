import SqlReplay.Document.Toml.Reader
import SqlReplay.Proofs.Document.TomlText
import SqlReplay.Proofs.Document.TomlTree

/-!
# Reading TOML back

Tables of scalars are read back from what is written of them (`parse?_printSections`), if their
names need no quotes, no name stands twice and the numbers have 64 bits with sign.  Reading takes
one line after the other: a header opens a table at the end of the document (`readEntry?_header`),
and each assignment puts one more value at the end of the table that is open (`readEntry?_field`).
-/

namespace SqlReplay.Toml

/-! ## Numbers -/

section Numbers

variable {cs rest : List Char} {n : ℕ}

theorem plainDigits?_eq_self (hne : cs ≠ []) (h : ∀ c ∈ cs, c.isDigit = true) :
    plainDigits? Char.isDigit cs = some cs := by
  induction cs with
  | nil => exact absurd rfl hne
  | cons c cs ih =>
    have hc := h c List.mem_cons_self
    cases cs with
    | nil => exact if_pos hc
    | cons d cs =>
      have hd := h d (List.mem_cons_of_mem c List.mem_cons_self)
      have hunderscore : d ≠ '_' := by
        rintro rfl
        exact absurd hd (by decide)
      rw [plainDigits?, if_pos hc, if_neg hunderscore,
        ih (List.cons_ne_nil d cs) fun e he => h e (List.mem_cons_of_mem c he)]
      rfl

theorem hasIdleZero_repr (n : ℕ) : hasIdleZero n.repr.toList = false := by
  by_cases hn : n = 0
  · rw [hn]
    rfl
  · have hhead := Document.head?_toDigits_ne hn
    rw [Nat.toList_repr]
    unfold hasIdleZero
    split
    · next heq =>
      rw [heq] at hhead
      exact absurd rfl hhead
    · rfl

theorem hexValue?_of_isDigit {c : Char} (h : c.isDigit = true) :
    Text.hexValue? c = some (c.toNat - '0'.toNat) := by
  have hbounds : '0' ≤ c ∧ c ≤ '9' := by
    rw [Char.isDigit, Bool.and_eq_true, decide_eq_true_eq, decide_eq_true_eq] at h
    exact h
  rw [Text.hexValue?, if_pos hbounds]
  rfl

theorem valueIn_eq_ofDigitChars (h : ∀ c ∈ cs, c.isDigit = true) :
    valueIn 10 cs = Nat.ofDigitChars 10 cs 0 := by
  have hfold (n : ℕ) : cs.foldl (fun n c => 10 * n + (Text.hexValue? c).getD 0) n =
      Nat.ofDigitChars 10 cs n := by
    induction cs generalizing n with
    | nil => rfl
    | cons c cs ih =>
      rw [List.foldl_cons, Nat.ofDigitChars_cons, hexValue?_of_isDigit (h c List.mem_cons_self),
        Option.getD_some]
      exact ih (fun d hd => h d (List.mem_cons_of_mem c hd)) _
  exact hfold 0

theorem valueIn_repr (n : ℕ) : valueIn 10 n.repr.toList = n := by
  rw [valueIn_eq_ofDigitChars fun _ => Text.isDigit_of_mem_repr, Nat.toList_repr]
  exact Nat.ofDigitChars_toDigits (by decide) (by decide)

/-- A numeral that fits 64 bits with sign is read as an integer. -/
theorem integer?_repr (h : n < UInt64.size / 2) : integer? n.repr.toList = some (.ofNat n) := by
  have hdigits : ∀ c ∈ n.repr.toList, c.isDigit = true := fun _ => Text.isDigit_of_mem_repr
  have hother {c d : Char} {ds : List Char} (heq : n.repr.toList = c :: d :: ds) :
      d.isDigit = true := by
    apply hdigits
    rw [heq]
    exact List.mem_cons_of_mem c List.mem_cons_self
  have hsign : splitSign n.repr.toList = (none, n.repr.toList) := by
    unfold splitSign
    split
    · next heq => exact absurd (hdigits '+' (heq ▸ List.mem_cons_self)) (by decide)
    · next heq => exact absurd (hdigits '-' (heq ▸ List.mem_cons_self)) (by decide)
    · rfl
  have hnode : integerNode? n = some (.ofNat n) := by
    rw [integerNode?, if_pos (by omega), Document.ofNat]
  unfold integer?
  split
  · next heq => exact absurd (hother heq) (by decide)
  · next heq => exact absurd (hother heq) (by decide)
  · next heq => exact absurd (hother heq) (by decide)
  · simp only [hsign, plainDigits?_eq_self (Text.repr_toList_ne_nil n) hdigits, hasIdleZero_repr,
      valueIn_repr, Bool.false_eq_true, reduceCtorEq, if_false, hnode]

theorem mem_of_twoDigits?_eq_some {m : ℕ} (h : twoDigits? cs = some (m, rest)) {c : Char}
    (hc : c ∈ rest) : c ∈ cs := by
  unfold twoDigits? at h
  split at h
  · split at h
    · cases h
      exact List.mem_cons_of_mem _ (List.mem_cons_of_mem _ hc)
    · cases h
  · cases h

theorem after?_eq_none {t : Char} (h : t ∉ cs) : Document.after? [t] cs = none := by
  cases cs with
  | nil => rfl
  | cons c cs =>
    have hc : ¬ t = c := fun e => h (e ▸ List.mem_cons_self)
    exact if_neg hc

/-- There is no date without hyphens. -/
theorem afterDate?_eq_none (h : '-' ∉ cs) : afterDate? cs = none := by
  unfold afterDate?
  cases hcentury : twoDigits? cs with
  | none => rfl
  | some century =>
    cases hyear : twoDigits? century.2 with
    | none => simp only [hyear, Option.bind_eq_bind, Option.bind_some, Option.bind_none]
    | some year =>
      have hnot : '-' ∉ year.2 := fun hmem =>
        h (mem_of_twoDigits?_eq_some hcentury (mem_of_twoDigits?_eq_some hyear hmem))
      simp only [hyear, after?_eq_none hnot, Option.bind_eq_bind, Option.bind_some,
        Option.bind_none]

/-- There is no time without colons. -/
theorem afterTime?_eq_none (h : ':' ∉ cs) : afterTime? cs = none := by
  unfold afterTime?
  cases hhour : twoDigits? cs with
  | none => rfl
  | some hour =>
    have hnot : ':' ∉ hour.2 := fun hmem => h (mem_of_twoDigits?_eq_some hhour hmem)
    simp only [after?_eq_none hnot, Option.bind_eq_bind, Option.bind_some, Option.bind_none]

theorem isMoment_eq_false (hdate : '-' ∉ cs) (htime : ':' ∉ cs) : isMoment cs = false := by
  rw [isMoment, afterDate?_eq_none hdate, afterTime?_eq_none htime]
  rfl

theorem readScalar?_repr (h : n < UInt64.size / 2)
    (hrest : ∀ c, rest.head? = some c → isScalarChar c = false) :
    readScalar? (n.repr.toList ++ rest) = some (.ofNat n, rest) := by
  have hdigits : ∀ c ∈ n.repr.toList, c.isDigit = true := fun _ => Text.isDigit_of_mem_repr
  have hnot {c : Char} (hc : c.isDigit = false) : c ∉ n.repr.toList := by
    intro hmem
    rw [hdigits c hmem] at hc
    cases hc
  have hscalar : ∀ c ∈ n.repr.toList, isScalarChar c = true := by
    intro c hc
    simp [isScalarChar, Char.isAlphanum, hdigits c hc]
  have hstop : rest.takeWhile isScalarChar = [] := by
    cases rest with
    | nil => rfl
    | cons c cs => exact List.takeWhile_cons_of_neg (by simp [hrest c rfl])
  have hfirst : (n.repr.toList ++ rest).takeWhile isScalarChar = n.repr.toList := by
    rw [List.takeWhile_append_of_pos hscalar, hstop, List.append_nil]
  have htrue : n.repr.toList ≠ "true".toList := fun e => hnot (c := 't') (by decide) (by simp [e])
  have hfalse : n.repr.toList ≠ "false".toList := fun e => hnot (c := 'f') (by decide) (by simp [e])
  have hmoment := isMoment_eq_false (hnot (c := '-') (by decide)) (hnot (c := ':') (by decide))
  simp only [readScalar?, hfirst, List.drop_left, afterDate?_eq_none (hnot (c := '-') (by decide)),
    if_neg htrue, if_neg hfalse, hmoment, Bool.false_eq_true, if_false, integer?_repr h]

end Numbers

/-! ## Space -/

/-- Whether a character is neither blank nor the beginning of a comment or of a line ending. -/
structure Solid (c : Char) : Prop where
  space : c ≠ ' '
  tab : c ≠ '\t'
  comment : c ≠ '#'
  line : c ≠ '\n'
  carriageReturn : c ≠ '\r'

theorem Solid.skipBlanks {c : Char} (h : Solid c) (cs : List Char) :
    skipBlanks (c :: cs) = c :: cs := skipBlanks_cons h.space h.tab cs

theorem Solid.skipLines {c : Char} (h : Solid c) (fuel : ℕ) (cs : List Char) :
    skipLines (fuel + 1) (c :: cs) = c :: cs := by
  have hcomment : skipComment (c :: cs) = c :: cs := by
    unfold skipComment
    split
    · next heq =>
      cases heq
      exact absurd rfl h.comment
    · rfl
  rw [Toml.skipLines, h.skipBlanks, hcomment]
  simp only [afterNewline?_eq_none h.line h.carriageReturn]

theorem skipLines_newline (fuel : ℕ) (cs : List Char) :
    skipLines (fuel + 1) ('\n' :: cs) = skipLines fuel cs := rfl

theorem solid_quote {q : Char} (h : q = '"' ∨ q = '\'') : Solid q := by
  rcases h with rfl | rfl <;> constructor <;> decide

theorem solid_bracket : Solid ']' := by constructor <;> decide

/-! ## Values -/

/-- The data tree of a scalar. -/
def Scalar.document : Scalar → Document
  | text s => .text s
  | integer n => .ofNat n
  | texts items => .list (items.map Document.text)

/-- Whether a scalar can be read back: numbers have 64 bits with sign. -/
def Scalar.Fits : Scalar → Prop
  | integer n => n < UInt64.size / 2
  | _ => True

section Values

variable {rest : List Char} {fuel depth : ℕ}

theorem readValue_quoteText (s : String) (hbasic : rest.head? ≠ some '"')
    (hliteral : rest.head? ≠ some '\'') :
    readValue (fuel + 1) depth (quoteText s.toList ++ rest) = some (.text s, rest) := by
  have hread : readText? (quoteText s.toList ++ rest) = some (s.toList, rest) :=
    readText?_quoteText hbasic hliteral
  obtain ⟨q, tail, hquote, rfl | rfl⟩ := quoteText_eq_cons s.toList
  all_goals
    rw [hquote, List.cons_append] at hread ⊢
    rw [readValue, hread]
    show some (Document.text (String.ofList s.toList), rest) = _
    rw [String.ofList_toList]

theorem readValue_digit {c : Char} (h : c.isDigit = true) (fuel depth : ℕ) (cs : List Char) :
    readValue (fuel + 1) depth (c :: cs) = readScalar? (c :: cs) := by
  have hother {d : Char} {ds : List Char} (hd : d.isDigit = false) : c :: cs ≠ d :: ds := by
    intro heq
    rw [(List.cons.inj heq).1, hd] at h
    cases h
  rw [readValue]
  case x_4 | x_5 => exact fun _ => hother rfl
  case x_6 | x_8 => exact fun _ heq _ => hother rfl heq
  case x_7 | x_9 => exact fun _ _ heq _ => hother rfl heq

theorem readValue_repr {n : ℕ} (h : n < UInt64.size / 2)
    (hrest : ∀ c, rest.head? = some c → isScalarChar c = false) :
    readValue (fuel + 1) depth (n.repr.toList ++ rest) = some (.ofNat n, rest) := by
  obtain ⟨c, cs, hdigits, hc⟩ := Document.exists_digit_cons_repr n
  have hread := readScalar?_repr h hrest
  rw [hdigits, List.cons_append] at hread ⊢
  rw [readValue_digit hc, hread]

/-! ### Lists -/

variable {cs body after : List Char} {item : Document}

theorem readItems_none (h : skipLines (cs.length + 1) cs = ']' :: rest) :
    readItems (fuel + 1) depth cs = some ([], rest) := by
  simp only [readItems, h]

theorem readItems_last (hbody : skipLines (cs.length + 1) cs = body) (hne : body.head? ≠ some ']')
    (hread : readValue fuel depth body = some (item, after))
    (h : skipLines (after.length + 1) after = ']' :: rest) :
    readItems (fuel + 1) depth cs = some ([item], rest) := by
  rw [readItems, hbody]
  split
  · exact absurd rfl hne
  · simp only [hread, h, Option.bind_eq_bind, Option.bind_some]

theorem readItems_more (hbody : skipLines (cs.length + 1) cs = body) (hne : body.head? ≠ some ']')
    (hread : readValue fuel depth body = some (item, after))
    (h : skipLines (after.length + 1) after = ',' :: rest) :
    readItems (fuel + 1) depth cs =
      (readItems fuel depth rest).map fun (items, cs) => (item :: items, cs) := by
  rw [readItems, hbody]
  split
  · exact absurd rfl hne
  · simp only [hread, h, Option.bind_eq_bind, Option.bind_some]

/-- Several texts are written each on a line of its own. -/
def itemLine (s : String) : List Char := "    ".toList ++ quoteText s.toList ++ ",\n".toList

theorem itemLine_length_pos (s : String) : 0 < (itemLine s).length := by
  rw [itemLine, List.length_append]
  exact Nat.lt_add_left _ (by decide)

theorem flatMap_itemLine_cons (s : String) (items : List String) (cs : List Char) :
    (s :: items).flatMap itemLine ++ cs =
      "    ".toList ++ (quoteText s.toList ++ ',' :: '\n' :: (items.flatMap itemLine ++ cs)) := by
  rw [List.flatMap_cons, itemLine]
  simp only [List.append_assoc]
  rfl

theorem skipLines_quoteText (fuel : ℕ) (cs rest : List Char) :
    skipLines (fuel + 1) (quoteText cs ++ rest) = quoteText cs ++ rest := by
  obtain ⟨q, tail, hquote, hq⟩ := quoteText_eq_cons cs
  rw [hquote]
  exact (solid_quote hq).skipLines fuel (tail ++ rest)

theorem head?_quoteText_ne (cs rest : List Char) : (quoteText cs ++ rest).head? ≠ some ']' := by
  obtain ⟨q, tail, hquote, rfl | rfl⟩ := quoteText_eq_cons cs
  all_goals
    rw [hquote]
    exact fun heq => absurd (Option.some.inj heq) (by decide)

theorem readItems_itemLines (items : List String) (hfuel : items.length < fuel) :
    readItems fuel depth ('\n' :: (items.flatMap itemLine ++ ']' :: rest)) =
      some (items.map Document.text, rest) := by
  induction items generalizing fuel with
  | nil =>
    cases fuel with
    | zero => exact absurd hfuel (Nat.not_lt_zero _)
    | succ fuel => exact readItems_none (solid_bracket.skipLines (rest.length + 1) rest)
  | cons s items ih =>
    rw [List.length_cons] at hfuel
    obtain ⟨fuel, rfl⟩ : ∃ m, fuel = m + 2 := ⟨fuel - 2, by omega⟩
    have hstep := ih (Nat.lt_of_succ_lt_succ hfuel)
    have hcomma : Solid ',' := by constructor <;> decide
    rw [flatMap_itemLine_cons]
    generalize items.flatMap itemLine ++ ']' :: rest = more at hstep ⊢
    have hread : readValue (fuel + 1) depth (quoteText s.toList ++ ',' :: '\n' :: more) =
        some (.text s, ',' :: '\n' :: more) := readValue_quoteText s nofun nofun
    have hbody (fuel : ℕ) : skipLines (fuel + 2)
        ('\n' :: ("    ".toList ++ (quoteText s.toList ++ ',' :: '\n' :: more))) =
          quoteText s.toList ++ ',' :: '\n' :: more := skipLines_quoteText fuel _ _
    have hmore : readItems (fuel + 2) depth
        ('\n' :: ("    ".toList ++ (quoteText s.toList ++ ',' :: '\n' :: more))) =
          (readItems (fuel + 1) depth ('\n' :: more)).map
            fun (items, cs) => (.text s :: items, cs) := by
      refine readItems_more ?_ (head?_quoteText_ne _ _) hread (hcomma.skipLines _ _)
      exact hbody _
    rw [hmore, hstep]
    rfl

theorem readValue_bracket (fuel depth : ℕ) (cs : List Char) :
    readValue (fuel + 1) (depth + 1) ('[' :: cs) =
      (readItems fuel depth cs).map fun (items, cs) => (.list items, cs) := by
  rw [readValue]

theorem readValue_emptyList (hfuel : 2 ≤ fuel) :
    readValue fuel (depth + 1) ('[' :: ']' :: rest) = some (.list [], rest) := by
  obtain ⟨fuel, rfl⟩ : ∃ m, fuel = m + 2 := ⟨fuel - 2, by omega⟩
  rw [readValue_bracket, readItems_none (solid_bracket.skipLines _ rest)]
  rfl

theorem readValue_singleton (s : String) (hfuel : 3 ≤ fuel) :
    readValue fuel (depth + 1) ('[' :: (quoteText s.toList ++ ']' :: rest)) =
      some (.list [.text s], rest) := by
  obtain ⟨fuel, rfl⟩ : ∃ m, fuel = m + 3 := ⟨fuel - 3, by omega⟩
  have hread : readValue (fuel + 1) depth (quoteText s.toList ++ ']' :: rest) =
      some (.text s, ']' :: rest) := readValue_quoteText s nofun nofun
  rw [readValue_bracket, readItems_last (skipLines_quoteText _ _ _) (head?_quoteText_ne _ _) hread
    (solid_bracket.skipLines _ rest)]
  rfl

theorem readValue_itemLines (items : List String) (hfuel : items.length + 1 < fuel) :
    readValue fuel (depth + 1) ('[' :: '\n' :: (items.flatMap itemLine ++ ']' :: rest)) =
      some (.list (items.map Document.text), rest) := by
  obtain ⟨fuel, rfl⟩ : ∃ m, fuel = m + 1 := ⟨fuel - 1, by omega⟩
  rw [readValue_bracket, readItems_itemLines items (by omega)]
  rfl

/-- A list is read back from each of the forms in which it may be written. -/
theorem readValue_quoteList (items : List String) (hfuel : (quoteList items).length < fuel) :
    readValue fuel (depth + 1) (quoteList items ++ rest) =
      some (.list (items.map Document.text), rest) := by
  rcases items with _ | ⟨s, _ | ⟨t, items⟩⟩
  · have hlength : 2 < fuel := hfuel
    exact readValue_emptyList (by omega)
  · have hlength : (quoteText s.toList ++ [']']).length + 1 < fuel := hfuel
    obtain ⟨q, tail, hquote, -⟩ := quoteText_eq_cons s.toList
    rw [hquote, List.length_append, List.length_cons, List.length_singleton] at hlength
    have hwritten : quoteList [s] ++ rest = '[' :: (quoteText s.toList ++ ']' :: rest) := by
      rw [quoteList, List.cons_append, List.append_assoc]
      rfl
    rw [hwritten]
    exact readValue_singleton s (by omega)
  · have hwritten (rest : List Char) : quoteList (s :: t :: items) ++ rest =
        '[' :: '\n' :: ((s :: t :: items).flatMap itemLine ++ ']' :: rest) := by
      show "[\n".toList ++ (s :: t :: items).flatMap itemLine ++ [']'] ++ rest = _
      simp only [List.append_assoc]
      rfl
    have hitems := length_le_length_flatMap itemLine_length_pos (s :: t :: items)
    have hlength := congrArg List.length (hwritten [])
    simp only [List.append_nil, List.length_cons, List.length_append] at hlength hitems
    rw [hwritten]
    apply readValue_itemLines
    rw [List.length_cons, List.length_cons]
    omega

/-- A scalar is read back from its line. -/
theorem readValue_written {value : Scalar} (h : value.Fits) (hfuel : value.written.length < fuel)
    (rest : List Char) : readValue fuel (depth + 1) (value.written ++ '\n' :: rest) =
      some (value.document, '\n' :: rest) := by
  cases fuel with
  | zero => exact absurd hfuel (Nat.not_lt_zero _)
  | succ fuel =>
    cases value with
    | text s => exact readValue_quoteText s nofun nofun
    | integer n =>
      apply readValue_repr h
      rintro c ⟨⟩
      decide
    | texts items => exact readValue_quoteList items hfuel

end Values

/-! ## Keys -/

/-- Whether a name can stand as a key without quotes. -/
def IsBare (name : String) : Prop :=
  name.toList.isEmpty = false ∧ name.toList.all isBareKeyChar = true

instance (name : String) : Decidable (IsBare name) := inferInstanceAs (Decidable (_ ∧ _))

/-- Whether names can stand as different keys without quotes. -/
def AreBare (names : List String) : Prop := (∀ name ∈ names, IsBare name) ∧ names.Nodup

instance (names : List String) : Decidable (AreBare names) := inferInstanceAs (Decidable (_ ∧ _))

section Keys

variable {name : String} {rest : List Char}

theorem ne_of_isBareKeyChar {c d : Char} (hc : isBareKeyChar c = true)
    (hd : isBareKeyChar d = false) : c ≠ d := by
  rintro rfl
  rw [hc] at hd
  cases hd

theorem solid_of_isBareKeyChar {c : Char} (h : isBareKeyChar c = true) : Solid c where
  space := ne_of_isBareKeyChar h (by decide)
  tab := ne_of_isBareKeyChar h (by decide)
  comment := ne_of_isBareKeyChar h (by decide)
  line := ne_of_isBareKeyChar h (by decide)
  carriageReturn := ne_of_isBareKeyChar h (by decide)

theorem IsBare.eq_cons (h : IsBare name) :
    ∃ c cs, name.toList = c :: cs ∧ isBareKeyChar c = true := by
  obtain ⟨c, cs, hname⟩ := List.exists_cons_of_ne_nil (List.isEmpty_eq_false_iff.1 h.1)
  exact ⟨c, cs, hname, List.all_eq_true.1 h.2 c (hname ▸ List.mem_cons_self)⟩

theorem readKeyPart?_bare (h : IsBare name)
    (hrest : ∀ c, rest.head? = some c → isBareKeyChar c = false) :
    readKeyPart? (name.toList ++ rest) = some (name, rest) := by
  have hstop : rest.takeWhile isBareKeyChar = [] := by
    cases rest with
    | nil => rfl
    | cons c cs => exact List.takeWhile_cons_of_neg (by simp [hrest c rfl])
  have hkey : (name.toList ++ rest).takeWhile isBareKeyChar = name.toList := by
    rw [List.takeWhile_append_of_pos (List.all_eq_true.1 h.2), hstop, List.append_nil]
  obtain ⟨c, cs, hname, hc⟩ := h.eq_cons
  unfold readKeyPart?
  split
  · next heq =>
    rw [hname] at heq
    exact absurd (List.cons.inj heq).1 (ne_of_isBareKeyChar hc (by decide))
  · next heq =>
    rw [hname] at heq
    exact absurd (List.cons.inj heq).1 (ne_of_isBareKeyChar hc (by decide))
  · have hfull : ¬ name.toList.isEmpty = true := by
      rw [h.1]
      exact Bool.false_ne_true
    simp only [hkey, if_neg hfull, String.ofList_toList, List.drop_left]

/-- A key that needs no quotes ends where something else than a dot follows. -/
theorem readKey?_bare (h : IsBare name)
    (hrest : ∀ c, rest.head? = some c → isBareKeyChar c = false)
    (hdot : (skipBlanks rest).head? ≠ some '.') :
    readKey? (name.toList ++ rest) = some ([name], skipBlanks rest) := by
  have hpart := readKeyPart?_bare h hrest
  have hskip : skipBlanks (name.toList ++ rest) = name.toList ++ rest := by
    obtain ⟨c, cs, hname, hc⟩ := h.eq_cons
    rw [hname]
    exact (solid_of_isBareKeyChar hc).skipBlanks (cs ++ rest)
  rw [readKey?, depthLimit, readKeyParts, hskip, hpart]
  simp only [Option.bind_eq_bind, Option.bind_some]
  split
  · next heq =>
    rw [heq] at hdot
    exact absurd rfl hdot
  · rfl

end Keys

/-! ## Lines -/

section Lines

variable {es : Entries} {name : String} {rest : List Char} {fuel : ℕ}

theorem Scalar.written_eq_cons (value : Scalar) : ∃ c cs, value.written = c :: cs ∧ Solid c := by
  cases value with
  | text s =>
    obtain ⟨q, tail, hquote, hq⟩ := quoteText_eq_cons s.toList
    exact ⟨q, tail, hquote, solid_quote hq⟩
  | integer n =>
    obtain ⟨c, cs, hdigits, hc⟩ := Document.exists_digit_cons_repr n
    have hbare : isBareKeyChar c = true := by simp [isBareKeyChar, Char.isAlphanum, hc]
    exact ⟨c, cs, hdigits, solid_of_isBareKeyChar hbare⟩
  | texts items =>
    rcases items with _ | ⟨s, _ | ⟨t, items⟩⟩
    all_goals exact ⟨'[', _, rfl, by constructor <;> decide⟩

/-- A field of a table is written on a line of its own. -/
def fieldLine (f : String × Scalar) : List Char :=
  f.1.toList ++ " = ".toList ++ f.2.written ++ ['\n']

theorem fieldLine_append (f : String × Scalar) (rest : List Char) :
    fieldLine f ++ rest = f.1.toList ++ ' ' :: '=' :: ' ' :: (f.2.written ++ '\n' :: rest) := by
  simp only [fieldLine, List.append_assoc]
  rfl

/-- A header opens a new table at the end. -/
theorem readEntry?_header (h : IsBare name) (hnew : name ∉ es.map Prod.fst) (header : List String)
    (rest : List Char) :
    readEntry? ⟨es, header⟩ ('[' :: (name.toList ++ ']' :: '\n' :: rest)) =
      some (⟨opened es name [], [name]⟩, '\n' :: rest) := by
  have hkey : readKey? (name.toList ++ ']' :: '\n' :: rest) =
      some ([name], ']' :: '\n' :: rest) := by
    apply readKey?_bare h
    · rintro c ⟨⟩
      decide
    · exact nofun
  unfold readEntry?
  split
  · next heq =>
    obtain ⟨c, cs, hname, hc⟩ := h.eq_cons
    rw [hname] at heq
    exact absurd (List.cons.inj (List.cons.inj heq).2).1 (ne_of_isBareKeyChar hc (by decide))
  · next heq =>
    cases heq
    simp only [hkey, openTable_new hnew, Option.bind_eq_bind, Option.bind_some]
    rfl
  · next hother => exact absurd rfl (hother _)

/-- A line of a field puts its value at the end of the table that is open. -/
theorem readEntry?_field (hname : name ∉ es.map Prod.fst) {fields : List (String × Document)}
    {f : String × Scalar} (hbare : IsBare f.1) (hkey : f.1 ∉ fields.map Prod.fst)
    (hfits : f.2.Fits) (rest : List Char) :
    readEntry? ⟨opened es name fields, [name]⟩ (fieldLine f ++ rest) =
      some (⟨opened es name (fields ++ [(f.1, f.2.document)]), [name]⟩, '\n' :: rest) := by
  obtain ⟨c, cs, hcons, hc⟩ := hbare.eq_cons
  have hopen : c ≠ '[' := ne_of_isBareKeyChar hc (by decide)
  rw [fieldLine_append]
  generalize hbody : f.2.written ++ '\n' :: rest = body
  have hassigned : readKey? (f.1.toList ++ ' ' :: '=' :: ' ' :: body) =
      some ([f.1], '=' :: ' ' :: body) := by
    apply readKey?_bare hbare
    · rintro c ⟨⟩
      decide
    · exact nofun
  have hskip : skipBlanks (' ' :: body) = body := by
    obtain ⟨d, ds, hwritten, hd⟩ := f.2.written_eq_cons
    rw [← hbody, hwritten]
    exact hd.skipBlanks (ds ++ '\n' :: rest)
  have hread : readValue ((' ' :: body).length + 1) depthLimit body =
      some (f.2.document, '\n' :: rest) := by
    rw [← hbody]
    apply readValue_written hfits
    simp only [List.length_cons, List.length_append]
    omega
  unfold readEntry?
  split
  · next heq =>
    rw [hcons] at heq
    exact absurd (List.cons.inj heq).1 hopen
  · next heq =>
    rw [hcons] at heq
    exact absurd (List.cons.inj heq).1 hopen
  · have hafter : Document.after? ['='] ('=' :: ' ' :: body) = some (' ' :: body) := rfl
    simp only [hassigned, hafter, hskip, hread, assign_new hname hkey, Option.bind_eq_bind,
      Option.bind_some]
    rfl

theorem readEntries_newline (draft : Draft) (cs : List Char) :
    readEntries (fuel + 1) draft ('\n' :: cs) = readEntries (fuel + 1) draft cs := by
  rw [readEntries, readEntries, List.length_cons, skipLines_newline]

/-- A line that makes sense is read, and then the rest. -/
theorem readEntries_line {draft draft' : Draft} {c : Char} {cs : List Char} (hc : Solid c)
    (h : readEntry? draft (c :: cs) = some (draft', '\n' :: rest)) :
    readEntries (fuel + 1) draft (c :: cs) = readEntries fuel draft' rest := by
  have hafter : afterLine? ('\n' :: rest) = some rest := rfl
  rw [readEntries, hc.skipLines]
  simp only [h, hafter, Option.bind_eq_bind, Option.bind_some]

/-! ## Documents -/

/-- The data trees of fields. -/
def fieldDocuments (fields : List (String × Scalar)) : List (String × Document) :=
  fields.map fun f => (f.1, f.2.document)

/-- Fields are read line by line into the table that is open. -/
theorem readEntries_fields (hname : name ∉ es.map Prod.fst) {fields : List (String × Scalar)}
    {done : List (String × Document)} (hbare : ∀ key ∈ fields.map Prod.fst, IsBare key)
    (hdistinct : (done.map Prod.fst ++ fields.map Prod.fst).Nodup) (hfits : ∀ f ∈ fields, f.2.Fits)
    (fuel : ℕ) (rest : List Char) :
    readEntries (fuel + fields.length) ⟨opened es name done, [name]⟩
        (fields.flatMap fieldLine ++ rest) =
      readEntries fuel ⟨opened es name (done ++ fieldDocuments fields), [name]⟩ rest := by
  induction fields generalizing done with
  | nil =>
    rw [fieldDocuments, List.map_nil, List.append_nil]
    rfl
  | cons f fields ih =>
    have hf : IsBare f.1 := hbare f.1 List.mem_cons_self
    have hkey : f.1 ∉ done.map Prod.fst := by
      intro hdone
      exact (List.nodup_append.1 hdistinct).2.2 _ hdone _ List.mem_cons_self rfl
    have hnext : ((done ++ [(f.1, f.2.document)]).map Prod.fst ++ fields.map Prod.fst).Nodup := by
      rwa [List.map_append, List.append_assoc]
    have hstep := ih (fun key hmem => hbare key (List.mem_cons_of_mem f.1 hmem)) hnext
      fun g hg => hfits g (List.mem_cons_of_mem f hg)
    have hline := readEntry?_field hname hf hkey (hfits f List.mem_cons_self)
      (fields.flatMap fieldLine ++ rest)
    obtain ⟨c, cs, hcons, hc⟩ := hf.eq_cons
    rw [List.flatMap_cons, List.append_assoc]
    rw [fieldLine_append, hcons, List.cons_append] at hline ⊢
    rw [List.length_cons, ← Nat.add_assoc, readEntries_line (solid_of_isBareKeyChar hc) hline,
      hstep, List.append_assoc]
    rfl

/-- Whether a table can be read back: its names need no quotes and are different, and its numbers
have 64 bits with sign. -/
structure Section.Readable (s : Section) : Prop where
  name : IsBare s.name
  keys : AreBare (s.fields.map Prod.fst)
  fits : ∀ f ∈ s.fields, f.2.Fits

/-- The data tree of a table with its name. -/
def Section.document (s : Section) : String × Document :=
  (s.name, .record (fieldDocuments s.fields))

/-- The part of a document that a table becomes. -/
def Section.tree (s : Section) : String × Tree :=
  (s.name, .table .header (fieldEntries (fieldDocuments s.fields)))

theorem readEntries_section {s : Section} (h : s.Readable) (hnew : s.name ∉ es.map Prod.fst)
    (header : List String) (fuel : ℕ) (rest : List Char) :
    readEntries (fuel + s.fields.length + 1) ⟨es, header⟩ (s.written ++ rest) =
      readEntries fuel ⟨es ++ [s.tree], [s.name]⟩ rest := by
  have hwritten : s.written ++ rest =
      '[' :: (s.name.toList ++ ']' :: '\n' :: (s.fields.flatMap fieldLine ++ rest)) := by
    show '[' :: (s.name.toList ++ "]\n".toList ++ s.fields.flatMap fieldLine ++ rest) = _
    simp only [List.append_assoc]
    rfl
  have hheader := readEntry?_header h.name hnew header (s.fields.flatMap fieldLine ++ rest)
  have hopen : Solid '[' := by constructor <;> decide
  have hdistinct : (([] : List (String × Document)).map Prod.fst ++ s.fields.map Prod.fst).Nodup :=
    h.keys.2
  rw [hwritten, readEntries_line hopen hheader, readEntries_fields hnew h.keys.1 hdistinct h.fits]
  rfl

theorem length_lt_written (s : Section) : s.fields.length < s.written.length := by
  have hpos (f : String × Scalar) : 0 < (fieldLine f).length := by
    rw [fieldLine, List.length_append]
    exact Nat.succ_pos _
  have hlength := length_le_length_flatMap hpos s.fields
  show _ < ('[' :: (s.name.toList ++ "]\n".toList ++ s.fields.flatMap fieldLine)).length
  rw [List.length_cons, List.length_append]
  omega

/-- Tables are read one after the other. -/
theorem readEntries_sections {sections : List Section} (h : ∀ s ∈ sections, s.Readable)
    (hdistinct : (es.map Prod.fst ++ sections.map Section.name).Nodup) (header : List String)
    (hfuel : (sections.flatMap fun s => s.written ++ ['\n']).length < fuel) :
    readEntries fuel ⟨es, header⟩ (sections.flatMap fun s => s.written ++ ['\n']) =
      some (es ++ sections.map Section.tree) := by
  induction sections generalizing es header fuel with
  | nil =>
    cases fuel with
    | zero => exact absurd hfuel (Nat.not_lt_zero _)
    | succ fuel =>
      rw [List.map_nil, List.append_nil]
      rfl
  | cons s sections ih =>
    have hs := h s List.mem_cons_self
    have hnew : s.name ∉ es.map Prod.fst := by
      intro hes
      exact (List.nodup_append.1 hdistinct).2.2 _ hes _ List.mem_cons_self rfl
    have hnext : ((es ++ [s.tree]).map Prod.fst ++ sections.map Section.name).Nodup := by
      rwa [List.map_append, List.append_assoc]
    have hlength := length_lt_written s
    rw [List.flatMap_cons, List.append_assoc] at hfuel ⊢
    simp only [List.length_append, List.length_singleton] at hfuel
    obtain ⟨m, rfl⟩ : ∃ m, fuel = m + 1 + s.fields.length + 1 :=
      ⟨fuel - s.fields.length - 2, by omega⟩
    rw [readEntries_section hs hnew, List.singleton_append, readEntries_newline,
      ih (fun t ht => h t (List.mem_cons_of_mem s ht)) hnext [s.name] (by omega), List.append_assoc]
    rfl

theorem entriesDocument_tree (sections : List Section) :
    entriesDocument (sections.map Section.tree) = sections.map Section.document := by
  rw [entriesDocument_eq_map, List.map_map]
  refine List.map_congr_left fun s _ => ?_
  show (s.name, Document.record (entriesDocument (fieldEntries (fieldDocuments s.fields)))) = _
  rw [entriesDocument_fieldEntries]
  rfl

theorem printSections_append_newline {sections : List Section} (hne : sections ≠ []) :
    printSections sections ++ ['\n'] = sections.flatMap fun s => s.written ++ ['\n'] := by
  induction sections with
  | nil => exact absurd rfl hne
  | cons s sections ih =>
    cases sections with
    | nil =>
      rw [List.flatMap_cons, List.flatMap_nil, List.append_nil]
      exact congrArg (· ++ ['\n']) List.intercalate_singleton
    | cons t sections =>
      have hprint : printSections (s :: t :: sections) =
          s.written ++ ['\n'] ++ printSections (t :: sections) := List.intercalate_cons_cons
      rw [List.flatMap_cons, ← ih (List.cons_ne_nil t sections), hprint, List.append_assoc]

/-- Tables are read back from what is written of them and a line feed after it. -/
theorem parse?_printSections {sections : List Section} (hne : sections ≠ [])
    (h : ∀ s ∈ sections, s.Readable) (hdistinct : (sections.map Section.name).Nodup) :
    parse? (printSections sections ++ ['\n']) = some (.record (sections.map Section.document)) := by
  have hnodup : (([] : Entries).map Prod.fst ++ sections.map Section.name).Nodup := hdistinct
  have hread : readEntries ((sections.flatMap fun s => s.written ++ ['\n']).length + 1) ⟨[], []⟩
      (sections.flatMap fun s => s.written ++ ['\n']) = some (sections.map Section.tree) :=
    readEntries_sections h hnodup [] (Nat.lt_succ_self _)
  obtain ⟨cs, hcons⟩ : ∃ cs, (sections.flatMap fun s => s.written ++ ['\n']) = '[' :: cs := by
    obtain ⟨s, sections, rfl⟩ := List.exists_cons_of_ne_nil hne
    exact ⟨_, rfl⟩
  rw [hcons] at hread
  rw [printSections_append_newline hne, hcons]
  show (readEntries (('[' :: cs).length + 1) ⟨[], []⟩ ('[' :: cs)).map _ = _
  rw [hread, Option.map_some, entriesDocument_tree]

end Lines

end SqlReplay.Toml
