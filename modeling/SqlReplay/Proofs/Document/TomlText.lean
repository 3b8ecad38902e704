import Mathlib.Data.List.TakeWhile
import SqlReplay.Document.Toml.Lexeme
import SqlReplay.Document.Toml.Printer
import SqlReplay.Proofs.Document.JsonRoundTrip

/-!
# Reading TOML texts back

A text is read back from each of the forms in which it may be written (`readText?_quoteText`).  One
character at a time is read as it was written, with an escape or without (`escapeBasic_cases`).
Between triple quotes a text is written so that it never begins with three quotes of its own
(`Opens`): copies of the quote up to the end belong to the closing quotes only if there are three
more, and then up to two of them are part of the text.
-/

namespace SqlReplay.Toml

open Document (push)

/-! ## Characters -/

theorem isPlain_of_not_isControl {c : Char} (h : isControl c = false) (hline : c ≠ '\n') :
    isPlain c = true := by
  simp only [isControl, isPlain, Bool.or_eq_false_iff, Bool.and_eq_false_iff, Bool.or_eq_true,
    Bool.and_eq_true, decide_eq_true_eq, decide_eq_false_iff_not, ne_eq, Decidable.not_not] at h ⊢
  obtain ⟨(hlow | rfl) | rfl, hdelete⟩ := h
  · exact Or.inr ⟨by omega, hdelete⟩
  · exact Or.inl rfl
  · exact absurd rfl hline

theorem ne_return_of_not_isControl {c : Char} (h : isControl c = false) : c ≠ '\r' := by
  rintro rfl
  exact absurd h (by decide)

theorem hexValue?_toUpper {n : ℕ} (h : n < 16) :
    Text.hexValue? (Text.hexDigit n).toUpper = some n := by
  have hall : ∀ n < 16, Text.hexValue? (Text.hexDigit n).toUpper = some n := by decide
  exact hall n h

/-- Four upper-case digits are read as the number that they were made of. -/
theorem hexNumber?_hexDigits {n : ℕ} (h : n < 0x10000) : ∃ a b c d,
    (Text.hexDigits 4 n).map Char.toUpper = [a, b, c, d] ∧ hexNumber? [a, b, c, d] = some n := by
  refine ⟨_, _, _, _, rfl, ?_⟩
  have hlt : n < 16 ^ 4 := h
  have hread := hexNumber?_map_hexDigits (fun m => hexValue?_toUpper) 4 n
  rw [Nat.mod_eq_of_lt hlt] at hread
  exact hread

/-- Whether a text after a backslash is an escape for a character, and no line ending. -/
def Escapes (c : Char) (escape : List Char) : Prop :=
  ∃ e es, escape = e :: es ∧ e ≠ ' ' ∧ e ≠ '\t' ∧ e ≠ '\n' ∧ e ≠ '\r' ∧
    ∀ rest, readEscape? (e :: (es ++ rest)) = some (c, rest)

/-- A character is written as itself, if it is neither a quote nor a backslash nor one that never
stands for itself, or by an escape. -/
theorem escapeBasic_cases (c : Char) :
    (escapeBasic c = [c] ∧ c ≠ '"' ∧ c ≠ '\\' ∧ 0x20 ≤ c.toNat ∧ c.toNat ≠ 0x7F) ∨
      ∃ escape, escapeBasic c = '\\' :: escape ∧ Escapes c escape := by
  unfold escapeBasic
  split
  iterate 7
    exact Or.inr ⟨_, rfl, _, _, rfl, by decide, by decide, by decide, by decide, fun _ => rfl⟩
  · rename_i hquote hslash
    by_cases hcontrol : c.toNat < 0x20 ∨ c.toNat = 0x7F
    · right
      rw [if_pos (by simpa using hcontrol)]
      obtain ⟨a, b, c', d, hdigits, hnumber⟩ := hexNumber?_hexDigits (n := c.toNat) (by omega)
      refine ⟨_, rfl, 'u', _, rfl, by decide, by decide, by decide, by decide, fun rest => ?_⟩
      have hcharacter : character? c.toNat = some c := by
        rw [character?, if_pos (by omega), Char.ofNat_toNat]
      have hlong : ¬ (a :: b :: c' :: d :: rest).length < 4 := by
        simp only [List.length_cons]
        omega
      rw [hdigits]
      show (if (a :: b :: c' :: d :: rest).length < 4 then none
        else ((hexNumber? [a, b, c', d]).bind character?).map (·, rest)) = some (c, rest)
      rw [if_neg hlong, hnumber, Option.bind_some, hcharacter, Option.map_some]
    · left
      rw [if_neg (by simpa using hcontrol)]
      exact ⟨rfl, hquote, hslash, by omega, by omega⟩

theorem escapeBasic_eq_self {c : Char} (hcontrol : isControl c = false) (hslash : c ≠ '\\')
    (htab : c ≠ '\t') (hline : c ≠ '\n') (hquote : c ≠ '"') : escapeBasic c = [c] := by
  have hplain := isPlain_of_not_isControl hcontrol hline
  simp only [isPlain, Bool.or_eq_true, Bool.and_eq_true, decide_eq_true_eq, htab, false_or]
    at hplain
  have hlow {d : Char} (hd : d.toNat < 0x20) : c ≠ d := by
    rintro rfl
    omega
  unfold escapeBasic
  split
  · exact absurd rfl (hlow (by decide))
  · exact absurd rfl htab
  · exact absurd rfl hline
  · exact absurd rfl (hlow (by decide))
  · exact absurd rfl (hlow (by decide))
  · exact absurd rfl hquote
  · exact absurd rfl hslash
  · rw [if_neg]
    simp only [Bool.or_eq_true, decide_eq_true_eq]
    omega

/-! ## Texts of one line -/

theorem readBasic_escapeBasic (fuel : ℕ) (c : Char) (rest : List Char) :
    readBasic (fuel + 1) (escapeBasic c ++ rest) = (readBasic fuel rest).map (push c) := by
  rcases escapeBasic_cases c with ⟨hself, hquote, hslash, hlow, hdelete⟩ |
    ⟨_, hescape, e, es, rfl, -, -, -, -, hread⟩
  · have hplain : isPlain c = true := by simp [isPlain, hlow, hdelete]
    rw [hself, List.singleton_append, readBasic, if_pos hplain]
    · exact hquote
    · exact hslash
  · rw [hescape, List.cons_append, List.cons_append, readBasic, hread]
    rfl

theorem escapeBasic_length_pos (c : Char) : 0 < (escapeBasic c).length := by
  rcases escapeBasic_cases c with ⟨hself, -⟩ | ⟨_, hescape, -⟩
  · rw [hself]
    exact Nat.one_pos
  · rw [hescape]
    exact Nat.succ_pos _

theorem length_le_length_flatMap {α β : Type} {f : α → List β} (h : ∀ a, 0 < (f a).length)
    (as : List α) : as.length ≤ (as.flatMap f).length := by
  induction as with
  | nil => exact Nat.le_refl 0
  | cons a as ih =>
    have hpos := h a
    rw [List.flatMap_cons, List.length_append, List.length_cons]
    omega

theorem readBasic_escaped (cs rest : List Char) {fuel : ℕ} (hfuel : cs.length < fuel) :
    readBasic fuel (cs.flatMap escapeBasic ++ '"' :: rest) = some (cs, rest) := by
  induction cs generalizing fuel with
  | nil =>
    cases fuel with
    | zero => exact absurd hfuel (Nat.not_lt_zero _)
    | succ fuel => rfl
  | cons c cs ih =>
    cases fuel with
    | zero => exact absurd hfuel (Nat.not_lt_zero _)
    | succ fuel =>
      rw [List.flatMap_cons, List.append_assoc, readBasic_escapeBasic,
        ih (Nat.lt_of_succ_lt_succ hfuel)]
      rfl

theorem readLiteral_append {cs : List Char} (h : ∀ c ∈ cs, c ≠ '\'' ∧ isPlain c = true)
    (rest : List Char) : readLiteral (cs ++ '\'' :: rest) = some (cs, rest) := by
  have hbody : (cs ++ '\'' :: rest).takeWhile (fun c => c ≠ '\'' && isPlain c) = cs := by
    rw [List.takeWhile_append_of_pos, List.takeWhile_cons_of_neg (by decide), List.append_nil]
    intro c hc
    simp [h c hc]
  simp only [readLiteral, hbody, List.drop_left]

/-! ## Runs of quotes -/

theorem quoteRun_replicate {q : Char} {k : ℕ} (hk : k ≤ 5) {tail : List Char}
    (htail : tail.head? ≠ some q) : quoteRun q (List.replicate k q ++ tail) = k := by
  have htake : (List.replicate k q ++ tail).take 5 = List.replicate k q ++ tail.take (5 - k) := by
    rw [List.take_append, List.take_of_length_le (by rwa [List.length_replicate]),
      List.length_replicate]
  have hstop : (tail.take (5 - k)).takeWhile (· = q) = [] := by
    cases tail with
    | nil => rw [List.take_nil, List.takeWhile_nil]
    | cons c cs =>
      have hc : ¬ c = q := fun e => htail (congrArg some e)
      cases 5 - k with
      | zero => rfl
      | succ n => rw [List.take_succ_cons, List.takeWhile_cons_of_neg (by simpa using hc)]
  have hall : ∀ c ∈ List.replicate k q, decide (c = q) = true := by
    intro c hc
    rw [List.eq_of_mem_replicate hc, decide_eq_true rfl]
  rw [quoteRun, htake, List.takeWhile_append_of_pos hall, hstop, List.append_nil,
    List.length_replicate]

/-- Whether a text begins with at most so many copies of a quote, or is made of them. -/
inductive Opens (q : Char) : ℕ → List Char → Prop
  | nil (n : ℕ) : Opens q n []
  | other {c : Char} (hc : c ≠ q) (n : ℕ) (tail : List Char) : Opens q n (c :: tail)
  | quote {n : ℕ} {body : List Char} (h : Opens q n body) : Opens q (n + 1) (q :: body)

theorem Opens.eq_replicate_append {q : Char} {n : ℕ} {body : List Char} (h : Opens q n body) :
    ∃ k ≤ n, ∃ tail, body = List.replicate k q ++ tail ∧ tail.head? ≠ some q := by
  induction h with
  | nil n => exact ⟨0, Nat.zero_le n, [], rfl, nofun⟩
  | other hc n tail => exact ⟨0, Nat.zero_le n, _, rfl, fun e => hc (Option.some.inj e)⟩
  | quote h ih =>
    obtain ⟨k, hk, tail, rfl, htail⟩ := ih
    exact ⟨k + 1, by omega, tail, rfl, htail⟩

/-- Before closing quotes, what begins with at most two copies of the quote either is made of them
or begins with a run too short to close. -/
theorem Opens.closes_or {q : Char} {n : ℕ} {body : List Char} (h : Opens q n body) (hn : n ≤ 2)
    (rest : List Char) :
    (∃ k ≤ 2, body = List.replicate k q) ∨ quoteRun q (body ++ (triple q ++ rest)) < 3 := by
  obtain ⟨k, hk, tail, rfl, htail⟩ := h.eq_replicate_append
  cases tail with
  | nil => exact Or.inl ⟨k, hk.trans hn, List.append_nil _⟩
  | cons c cs =>
    right
    have hhead : (c :: cs ++ (triple q ++ rest)).head? ≠ some q := htail
    rw [List.append_assoc, quoteRun_replicate (by omega) hhead]
    omega

theorem replicate_append_triple (q : Char) (k : ℕ) (rest : List Char) :
    List.replicate k q ++ (triple q ++ rest) = List.replicate (k + 3) q ++ rest := by
  rw [← List.append_assoc, ← List.replicate_append_replicate]
  rfl

/-- The run that ends a text is told by its length, and what is behind it is left. -/
theorem quoteRun_closing {q : Char} {k : ℕ} (hk : k ≤ 2) {rest : List Char}
    (hrest : rest.head? ≠ some q) :
    quoteRun q (q :: (List.replicate (k + 2) q ++ rest)) = k + 3 ∧
      (q :: (List.replicate (k + 2) q ++ rest)).drop (k + 3) = rest := by
  constructor
  · exact quoteRun_replicate (k := k + 3) (by omega) hrest
  · show (List.replicate (k + 3) q ++ rest).drop (k + 3) = rest
    exact List.drop_left' List.length_replicate

/-! ## Line endings -/

theorem afterNewline?_eq_none {c : Char} (hline : c ≠ '\n') (hreturn : c ≠ '\r')
    (cs : List Char) : afterNewline? (c :: cs) = none := by
  unfold afterNewline?
  split
  · next heq =>
    cases heq
    exact absurd rfl hline
  · next heq =>
    cases heq
    exact absurd rfl hreturn
  · rfl

theorem dropNewline_eq_self {c : Char} (hline : c ≠ '\n') (hreturn : c ≠ '\r') (cs : List Char) :
    dropNewline (c :: cs) = c :: cs := by
  rw [dropNewline, afterNewline?_eq_none hline hreturn]
  rfl

theorem length_dropNewline_le (cs : List Char) : (dropNewline cs).length ≤ cs.length := by
  unfold dropNewline afterNewline?
  split
  · exact Nat.le_succ _
  · exact (Nat.le_succ _).trans (Nat.le_succ _)
  · exact Nat.le_refl _

theorem skipBlanks_cons {c : Char} (hspace : c ≠ ' ') (htab : c ≠ '\t') (cs : List Char) :
    skipBlanks (c :: cs) = c :: cs := List.dropWhile_cons_of_neg (by simp [hspace, htab])

/-! ## Texts of several lines in double quotes -/

section BasicLines

variable {rest cs : List Char} {fuel : ℕ}

theorem readBasicLines_close {k : ℕ} (hk : k ≤ 2) (hrest : rest.head? ≠ some '"') :
    readBasicLines (fuel + 1) (List.replicate k '"' ++ (triple '"' ++ rest)) =
      some (List.replicate k '"', rest) := by
  obtain ⟨hrun, hdrop⟩ := quoteRun_closing hk hrest
  rw [replicate_append_triple]
  show readBasicLines (fuel + 1) ('"' :: (List.replicate (k + 2) '"' ++ rest)) = _
  rw [readBasicLines, hrun, hdrop]
  exact if_pos (by omega)

theorem readBasicLines_quote (h : quoteRun '"' ('"' :: cs) < 3) :
    readBasicLines (fuel + 1) ('"' :: cs) = (readBasicLines fuel cs).map (push '"') := by
  rw [readBasicLines]
  exact if_neg (by omega)

theorem readBasicLines_newline (fuel : ℕ) (cs : List Char) :
    readBasicLines (fuel + 1) ('\n' :: cs) = (readBasicLines fuel cs).map (push '\n') := rfl

theorem readBasicLines_escapeBasic (fuel : ℕ) (c : Char) (cs : List Char) :
    readBasicLines (fuel + 1) (escapeBasic c ++ cs) = (readBasicLines fuel cs).map (push c) := by
  rcases escapeBasic_cases c with ⟨hself, hquote, hslash, hlow, hdelete⟩ |
    ⟨_, hescape, e, es, rfl, hspace, htab, hline, hreturn, hread⟩
  · have hplain : isPlain c = true := by simp [isPlain, hlow, hdelete]
    have hother {d : Char} (hd : d.toNat < 0x20) : c ≠ d := by
      rintro rfl
      omega
    have hnewline := afterNewline?_eq_none (hother (d := '\n') (by decide))
      (hother (d := '\r') (by decide)) cs
    rw [hself, List.singleton_append, readBasicLines]
    · rw [hnewline]
      exact if_pos hplain
    · exact hquote
    · exact hslash
  · have hfolded : afterFolded? (e :: (es ++ cs)) = none := by
      rw [afterFolded?, skipBlanks_cons hspace htab, afterNewline?_eq_none hline hreturn]
      rfl
    rw [hescape, List.cons_append, List.cons_append, readBasicLines, hfolded]
    show ((readEscape? (e :: (es ++ cs))).bind fun r => _) = _
    rw [hread, Option.bind_some]

/-- What is written of a text after some quotes begins with as many more as may follow them. -/
theorem opens_escapeLines {run n : ℕ} (h : run + n = 2) (cs : List Char) :
    Opens '"' n (escapeLines cs run) := by
  induction cs generalizing run n with
  | nil => exact .nil n
  | cons c cs ih =>
    rw [escapeLines]
    by_cases hline : c = '\n'
    · rw [if_pos hline]
      exact .other (by decide) n _
    rw [if_neg hline]
    by_cases hquote : c = '"'
    · rw [if_pos hquote]
      by_cases hrun : run < 2
      · rw [if_pos hrun]
        obtain ⟨n, rfl⟩ : ∃ m, n = m + 1 := ⟨n - 1, by omega⟩
        exact .quote (ih (by omega))
      · rw [if_neg hrun]
        exact .other (by decide) n _
    · rw [if_neg hquote]
      rcases escapeBasic_cases c with ⟨hself, -⟩ | ⟨_, hescape, -⟩
      · rw [hself]
        exact .other hquote n _
      · rw [hescape]
        exact .other (by decide) n _

/-- Only quotes are written as nothing but quotes. -/
theorem eq_replicate_of_escapeLines {run k : ℕ} (h : escapeLines cs run = List.replicate k '"') :
    cs = List.replicate k '"' := by
  induction cs generalizing run k with
  | nil => exact h
  | cons c cs ih =>
    have hall : ∀ d ∈ escapeLines (c :: cs) run, d = '"' := by
      rw [h]
      intro d hd
      exact List.eq_of_mem_replicate hd
    rw [escapeLines] at h hall
    by_cases hline : c = '\n'
    · rw [if_pos hline] at hall
      exact absurd (hall '\n' List.mem_cons_self) (by decide)
    rw [if_neg hline] at h hall
    by_cases hquote : c = '"'
    · rw [if_pos hquote] at h hall
      by_cases hrun : run < 2
      · rw [if_pos hrun] at h
        cases k with
        | zero => cases h
        | succ k =>
          rw [List.replicate_succ, List.cons.injEq] at h
          rw [hquote, ih h.2, List.replicate_succ]
      · rw [if_neg hrun] at hall
        exact absurd (hall '\\' List.mem_cons_self) (by decide)
    · rw [if_neg hquote] at hall
      rcases escapeBasic_cases c with ⟨hself, -⟩ | ⟨_, hescape, -⟩
      · rw [hself] at hall
        exact absurd (hall c List.mem_cons_self) hquote
      · rw [hescape] at hall
        exact absurd (hall '\\' List.mem_cons_self) (by decide)

/-- What is written after at most two quotes is read back up to the closing quotes. -/
theorem readBasicLines_escapeLines {run n : ℕ} (h : run + n = 2) (hrest : rest.head? ≠ some '"')
    (hfuel : cs.length < fuel) :
    readBasicLines fuel (escapeLines cs run ++ (triple '"' ++ rest)) = some (cs, rest) := by
  induction cs generalizing run n fuel with
  | nil =>
    cases fuel with
    | zero => exact absurd hfuel (Nat.not_lt_zero _)
    | succ fuel => exact readBasicLines_close (Nat.zero_le 2) hrest
  | cons c cs ih =>
    cases fuel with
    | zero => exact absurd hfuel (Nat.not_lt_zero _)
    | succ fuel =>
      have hstep {run n : ℕ} (h : run + n = 2) := ih h (Nat.lt_of_succ_lt_succ hfuel)
      have hopens := opens_escapeLines h (c :: cs)
      rcases hopens.closes_or (by omega) rest with ⟨k, hk, hbody⟩ | hshort
      · rw [hbody, readBasicLines_close hk hrest, eq_replicate_of_escapeLines hbody]
      rw [escapeLines] at hshort ⊢
      by_cases hline : c = '\n'
      · rw [if_pos hline, List.cons_append, readBasicLines_newline, hstep (rfl : 0 + 2 = 2), hline]
        rfl
      rw [if_neg hline] at hshort ⊢
      by_cases hquote : c = '"'
      · rw [if_pos hquote] at hshort ⊢
        by_cases hrun : run < 2
        · rw [if_pos hrun, List.cons_append] at hshort ⊢
          have hnext : run + 1 + (n - 1) = 2 := by omega
          rw [readBasicLines_quote hshort, hstep hnext, hquote]
          rfl
        · have hescape := readBasicLines_escapeBasic fuel '"'
            (escapeLines cs 0 ++ (triple '"' ++ rest))
          rw [if_neg hrun, hquote]
          refine hescape.trans ?_
          rw [hstep (rfl : 0 + 2 = 2)]
          rfl
      · rw [if_neg hquote, List.append_assoc, readBasicLines_escapeBasic,
          hstep (rfl : 0 + 2 = 2)]
        rfl

theorem length_le_escapeLines (cs : List Char) (run : ℕ) :
    cs.length ≤ (escapeLines cs run).length := by
  induction cs generalizing run with
  | nil => exact Nat.zero_le _
  | cons c cs ih =>
    have hzero := ih 0
    have hnext := ih (run + 1)
    rw [escapeLines]
    split_ifs
    iterate 3
      simp only [List.length_cons]
      omega
    have hpos := escapeBasic_length_pos c
    rw [List.length_append, List.length_cons]
    omega

end BasicLines

/-! ## Texts of several lines in single quotes -/

section LiteralLines

variable {rest cs : List Char} {fuel : ℕ}

theorem readLiteralLines_close {k : ℕ} (hk : k ≤ 2) (hrest : rest.head? ≠ some '\'') :
    readLiteralLines (fuel + 1) (List.replicate k '\'' ++ (triple '\'' ++ rest)) =
      some (List.replicate k '\'', rest) := by
  obtain ⟨hrun, hdrop⟩ := quoteRun_closing hk hrest
  rw [replicate_append_triple]
  show readLiteralLines (fuel + 1) ('\'' :: (List.replicate (k + 2) '\'' ++ rest)) = _
  rw [readLiteralLines, hrun, hdrop]
  exact if_pos (by omega)

theorem readLiteralLines_quote (h : quoteRun '\'' ('\'' :: cs) < 3) :
    readLiteralLines (fuel + 1) ('\'' :: cs) = (readLiteralLines fuel cs).map (push '\'') := by
  rw [readLiteralLines]
  exact if_neg (by omega)

theorem readLiteralLines_other {c : Char} (hquote : c ≠ '\'') (hcontrol : isControl c = false) :
    readLiteralLines (fuel + 1) (c :: cs) = (readLiteralLines fuel cs).map (push c) := by
  by_cases hline : c = '\n'
  · rw [hline]
    rfl
  · have hnewline := afterNewline?_eq_none hline (ne_return_of_not_isControl hcontrol) cs
    rw [readLiteralLines]
    · rw [hnewline]
      exact if_pos (isPlain_of_not_isControl hcontrol hline)
    · exact hquote

/-- The counted run and the best one so far are at most the longest run. -/
theorem le_longestRun (q : Char) (cs : List Char) (run best : ℕ) :
    run ≤ longestRun q cs run best ∧ best ≤ longestRun q cs run best := by
  induction cs generalizing run best with
  | nil => exact ⟨Nat.le_max_left run best, Nat.le_max_right run best⟩
  | cons c cs ih =>
    rw [longestRun]
    by_cases hc : c = q
    · rw [if_pos hc]
      obtain ⟨hrun, hbest⟩ := ih (run + 1) best
      exact ⟨by omega, hbest⟩
    · rw [if_neg hc]
      obtain ⟨-, hbest⟩ := ih 0 (max run best)
      exact ⟨by omega, by omega⟩

/-- What goes on after a run begins with no more copies than the longest run has left. -/
theorem opens_of_longestRun {q : Char} {run best n : ℕ} (h : longestRun q cs run best ≤ run + n) :
    Opens q n cs := by
  induction cs generalizing run best n with
  | nil => exact .nil n
  | cons c cs ih =>
    rw [longestRun] at h
    by_cases hc : c = q
    · rw [if_pos hc] at h
      have hrun := (le_longestRun q cs (run + 1) best).1
      obtain ⟨n, rfl⟩ : ∃ m, n = m + 1 := ⟨n - 1, by omega⟩
      have htail : longestRun q cs (run + 1) best ≤ run + 1 + n := by omega
      rw [hc]
      exact .quote (ih htail)
    · exact .other hc n cs

/-- A text without long runs of the quote is read back up to the closing quotes. -/
theorem readLiteralLines_append {run best : ℕ} (hlong : longestRun '\'' cs run best ≤ 2)
    (hcontrol : ∀ c ∈ cs, isControl c = false) (hrest : rest.head? ≠ some '\'')
    (hfuel : cs.length < fuel) :
    readLiteralLines fuel (cs ++ (triple '\'' ++ rest)) = some (cs, rest) := by
  induction cs generalizing run best fuel with
  | nil =>
    cases fuel with
    | zero => exact absurd hfuel (Nat.not_lt_zero _)
    | succ fuel => exact readLiteralLines_close (Nat.zero_le 2) hrest
  | cons c cs ih =>
    cases fuel with
    | zero => exact absurd hfuel (Nat.not_lt_zero _)
    | succ fuel =>
      have hrun := (le_longestRun '\'' (c :: cs) run best).1
      have hbound : longestRun '\'' (c :: cs) run best ≤ run + (2 - run) := by omega
      have hopens := opens_of_longestRun hbound
      rcases hopens.closes_or (by omega) rest with ⟨k, hk, hbody⟩ | hshort
      · rw [hbody]
        exact readLiteralLines_close hk hrest
      have hstep {run best : ℕ} (h : longestRun '\'' cs run best ≤ 2) :=
        ih h (fun d hd => hcontrol d (List.mem_cons_of_mem c hd)) (Nat.lt_of_succ_lt_succ hfuel)
      rw [longestRun] at hlong
      by_cases hquote : c = '\''
      · rw [if_pos hquote] at hlong
        rw [hquote, List.cons_append] at hshort ⊢
        rw [readLiteralLines_quote hshort, hstep hlong]
        rfl
      · rw [if_neg hquote] at hlong
        rw [List.cons_append, readLiteralLines_other hquote (hcontrol c List.mem_cons_self),
          hstep hlong]
        rfl

end LiteralLines

/-! ## All forms -/

/-- A text in which nothing needs an escape is written between triple quotes as it is. -/
theorem escapeLines_eq_self {cs : List Char} {run best : ℕ} (hlong : longestRun '"' cs run best ≤ 2)
    (hplain : ∀ c ∈ cs, isControl c = false ∧ c ≠ '\\' ∧ c ≠ '\t') : escapeLines cs run = cs := by
  induction cs generalizing run best with
  | nil => rfl
  | cons c cs ih =>
    have hstep {run best : ℕ} (h : longestRun '"' cs run best ≤ 2) :=
      ih h fun d hd => hplain d (List.mem_cons_of_mem c hd)
    rw [longestRun] at hlong
    rw [escapeLines]
    by_cases hquote : c = '"'
    · rw [if_pos hquote] at hlong
      have hrun := (le_longestRun '"' cs (run + 1) best).1
      rw [hquote, if_neg (by decide), if_pos rfl, if_pos (by omega), hstep hlong]
    · rw [if_neg hquote] at hlong
      rw [hstep hlong]
      by_cases hline : c = '\n'
      · rw [if_pos hline, hline]
      · obtain ⟨hcontrol, hslash, htab⟩ := hplain c List.mem_cons_self
        rw [if_neg hline, if_neg hquote,
          escapeBasic_eq_self hcontrol hslash htab hline hquote, List.singleton_append]

theorem flatMap_escapeBasic_eq_self {cs : List Char}
    (h : ∀ c ∈ cs, isControl c = false ∧ c ≠ '\\' ∧ c ≠ '\t' ∧ c ≠ '\n' ∧ c ≠ '"') :
    cs.flatMap escapeBasic = cs := by
  induction cs with
  | nil => rfl
  | cons c cs ih =>
    obtain ⟨hcontrol, hslash, htab, hline, hquote⟩ := h c List.mem_cons_self
    rw [List.flatMap_cons, escapeBasic_eq_self hcontrol hslash htab hline hquote,
      ih fun d hd => h d (List.mem_cons_of_mem c hd), List.singleton_append]

section Forms

variable {cs rest : List Char}

theorem readText?_double {body : List Char} (h : ∀ tail, body ≠ '"' :: '"' :: tail) :
    readText? ('"' :: body) = readBasic (body.length + 1) body := by
  unfold readText?
  split
  · next heq =>
    cases heq
    exact absurd rfl (h _)
  · next heq =>
    cases heq
    rfl
  · next heq => cases heq
  · next heq => cases heq
  · next hother _ _ => exact absurd rfl (hother body)

theorem readText?_single {body : List Char} (h : ∀ tail, body ≠ '\'' :: '\'' :: tail) :
    readText? ('\'' :: body) = readLiteral body := by
  unfold readText?
  split
  · next heq => cases heq
  · next heq => cases heq
  · next heq =>
    cases heq
    exact absurd rfl (h _)
  · next heq =>
    cases heq
    rfl
  · next hother => exact absurd rfl (hother body)

/-- A text on one line in double quotes, with escapes. -/
theorem readText?_escaped (hrest : rest.head? ≠ some '"') :
    readText? ('"' :: (cs.flatMap escapeBasic ++ '"' :: rest)) = some (cs, rest) := by
  have hlength := length_le_length_flatMap escapeBasic_length_pos cs
  have hsingle : ∀ tail, cs.flatMap escapeBasic ++ '"' :: rest ≠ '"' :: '"' :: tail := by
    rintro tail heq
    cases cs with
    | nil =>
      cases heq
      exact hrest rfl
    | cons c cs =>
      rw [List.flatMap_cons] at heq
      rcases escapeBasic_cases c with ⟨hself, hquote, -⟩ | ⟨_, hescape, -⟩
      · rw [hself] at heq
        exact hquote (List.cons.inj heq).1
      · rw [hescape] at heq
        exact absurd (List.cons.inj heq).1 (by decide)
  rw [readText?_double hsingle]
  apply readBasic_escaped
  rw [List.length_append]
  omega

/-- A text on one line in single quotes. -/
theorem readText?_literal (hrest : rest.head? ≠ some '\'')
    (hquote : '\'' ∉ cs) (hplain : ∀ c ∈ cs, isPlain c = true) :
    readText? ('\'' :: (cs ++ '\'' :: rest)) = some (cs, rest) := by
  have hsingle : ∀ tail, cs ++ '\'' :: rest ≠ '\'' :: '\'' :: tail := by
    rintro tail heq
    cases cs with
    | nil =>
      cases heq
      exact hrest rfl
    | cons c cs =>
      have hc : c = '\'' := (List.cons.inj heq).1
      exact hquote (hc ▸ List.mem_cons_self)
  rw [readText?_single hsingle]
  apply readLiteral_append
  intro c hc
  refine ⟨?_, hplain c hc⟩
  rintro rfl
  exact hquote hc

/-- What is written between triple quotes may begin on a line of its own. -/
theorem dropNewline_start {q : Char} (hline : q ≠ '\n') (hreturn : q ≠ '\r') {lines : Bool}
    (hlines : lines = false → '\n' ∉ cs) (hcontrol : ∀ c ∈ cs, isControl c = false) :
    dropNewline ((if lines then ['\n'] else []) ++ (cs ++ (triple q ++ rest))) =
      cs ++ (triple q ++ rest) := by
  cases lines with
  | true => rfl
  | false =>
    cases cs with
    | nil => exact dropNewline_eq_self hline hreturn _
    | cons c cs =>
      apply dropNewline_eq_self
      · rintro rfl
        exact hlines rfl List.mem_cons_self
      · exact ne_return_of_not_isControl (hcontrol c List.mem_cons_self)

/-- A text on several lines in double quotes. -/
theorem readText?_basicLines (hrest : rest.head? ≠ some '"') {body : List Char}
    (hbody : dropNewline body = escapeLines cs 0 ++ (triple '"' ++ rest)) :
    readText? (triple '"' ++ body) = some (cs, rest) := by
  have hlength := length_le_escapeLines cs 0
  have hdrop := length_dropNewline_le body
  show readBasicLines (body.length + 1) (dropNewline body) = _
  rw [hbody, List.length_append] at hdrop
  rw [hbody]
  exact readBasicLines_escapeLines (rfl : 0 + 2 = 2) hrest (by omega)

/-- A text on several lines in single quotes. -/
theorem readText?_literalLines (hrest : rest.head? ≠ some '\'')
    (hlong : longestRun '\'' cs 0 0 ≤ 2) (hcontrol : ∀ c ∈ cs, isControl c = false)
    {body : List Char} (hbody : dropNewline body = cs ++ (triple '\'' ++ rest)) :
    readText? (triple '\'' ++ body) = some (cs, rest) := by
  have hdrop := length_dropNewline_le body
  show readLiteralLines (body.length + 1) (dropNewline body) = _
  rw [hbody, List.length_append] at hdrop
  rw [hbody]
  exact readLiteralLines_append hlong hcontrol hrest (by omega)

/-- A text is read back in whichever form it is written, up to what follows it, if that is no
quote. -/
theorem readText?_quoteText (hbasic : rest.head? ≠ some '"') (hliteral : rest.head? ≠ some '\'') :
    readText? (quoteText cs ++ rest) = some (cs, rest) := by
  have habsent {q : Char} (h : cs.contains q = false) : q ∉ cs := by simpa using h
  have hother {q : Char} (h : cs.contains q = false) : ∀ c ∈ cs, c ≠ q := by
    rintro c hc rfl
    exact habsent h hc
  have hcontrol (h : cs.any isControl = false) : ∀ c ∈ cs, isControl c = false := by simpa using h
  have hescapes (h : (cs.any isControl || cs.any fun c => c = '\\' || c = '\t') = false) :
      ∀ c ∈ cs, isControl c = false ∧ c ≠ '\\' ∧ c ≠ '\t' := by
    rw [Bool.or_eq_false_iff] at h
    intro c hc
    have hplain : ∀ c ∈ cs, c ≠ '\\' ∧ c ≠ '\t' := by simpa using h.2
    exact ⟨hcontrol h.1 c hc, hplain c hc⟩
  have hescaped : readText? ('"' :: (cs.flatMap escapeBasic ++ '"' :: rest)) = some (cs, rest) :=
    readText?_escaped hbasic
  unfold quoteText
  dsimp only
  split
  · next h =>
    simp only [Bool.and_eq_true, Bool.not_eq_true'] at h
    obtain ⟨⟨hplain, hquote⟩, hline⟩ := h
    rw [flatMap_escapeBasic_eq_self] at hescaped
    · rw [List.cons_append, List.append_assoc]
      exact hescaped
    · intro c hc
      obtain ⟨hc', hslash, htab⟩ := hescapes hplain c hc
      exact ⟨hc', hslash, htab, hother hline c hc, hother hquote c hc⟩
  split
  · next h =>
    simp only [Bool.and_eq_true, Bool.not_eq_true'] at h
    obtain ⟨⟨hplain, hquote⟩, hline⟩ := h
    rw [List.cons_append, List.append_assoc]
    apply readText?_literal hliteral (habsent hquote)
    intro c hc
    exact isPlain_of_not_isControl (hcontrol hplain c hc) (hother hline c hc)
  split
  · next h =>
    simp only [Bool.and_eq_true, Bool.not_eq_true', decide_eq_true_eq] at h
    have hplain := hescapes h.1
    simp only [List.append_assoc]
    apply readText?_basicLines hbasic
    rw [escapeLines_eq_self h.2 hplain]
    exact dropNewline_start (by decide) (by decide) habsent fun c hc => (hplain c hc).1
  split
  · next h =>
    simp only [Bool.and_eq_true, Bool.not_eq_true', decide_eq_true_eq] at h
    have hplain := hcontrol h.1
    simp only [List.append_assoc]
    apply readText?_literalLines hliteral h.2 hplain
    exact dropNewline_start (by decide) (by decide) habsent hplain
  split
  · simp only [List.append_assoc]
    exact readText?_basicLines hbasic rfl
  · rw [List.cons_append, List.append_assoc]
    exact hescaped

/-- A written text begins with a quote. -/
theorem quoteText_eq_cons (cs : List Char) :
    ∃ q tail, quoteText cs = q :: tail ∧ (q = '"' ∨ q = '\'') := by
  unfold quoteText
  dsimp only
  split_ifs
  all_goals
    first
    | exact ⟨_, _, rfl, Or.inl rfl⟩
    | exact ⟨_, _, rfl, Or.inr rfl⟩

end Forms

end SqlReplay.Toml
