import Mathlib.Data.List.TakeDrop
import Mathlib.Data.List.TakeWhile
import SqlReplay.Document.Json
import SqlReplay.Document.JsonReader
import SqlReplay.Proofs.Text.Hexadecimal
import SqlReplay.Proofs.Text.Numeral

/-!
# Reading JSON back

A tree whose numbers are all integers of 64 bits is read back from its text (`ofJson?_json`), and
its text holds no control character (`le_of_mem_json`), a line feed least of all. The reader takes
one value and leaves what follows it (`readValue_json`), so the law is proved for a text that goes
on: only a number needs to know that the rest does not begin like a part of a number (`EndsNumber`).
-/

namespace SqlReplay.Document

/-! ## Strings -/

theorem hexQuad?_hexDigits {n : Nat} (h : n < 0x10000) : ∃ a b c d,
    Text.hexDigits 4 n = [a, b, c, d] ∧ hexQuad? a b c d = some n := by
  refine ⟨_, _, _, _, rfl, ?_⟩
  have hsum : ((n / 16 / 16 / 16 % 16 * 16 + n / 16 / 16 % 16) * 16 + n / 16 % 16) * 16 + n % 16 =
      n := by omega
  simp only [hexQuad?, Text.hexValue?_hexDigit (Nat.mod_lt _ (by decide : 16 > 0)),
    Option.bind_eq_bind, Option.bind_some, Option.pure_def, hsum]

theorem readString_raw {c : Char} (hquote : c ≠ '"') (hslash : c ≠ '\\')
    (hcontrol : ¬ c.toNat < 0x20) (rest : List Char) :
    readString (c :: rest) = (readString rest).map (push c) := by
  rw [readString.eq_def]
  split
  · next heq => cases heq
  · next heq =>
    cases heq
    exact absurd rfl hquote
  · next heq =>
    cases heq
    exact absurd rfl hslash
  · next heq =>
    cases heq
    exact absurd rfl hslash
  · next heq =>
    cases heq
    exact if_neg hcontrol

theorem readString_escapeChar (c : Char) (rest : List Char) :
    readString (escapeChar c ++ rest) = (readString rest).map (push c) := by
  unfold escapeChar
  split
  · rfl
  · rfl
  · rfl
  · rfl
  · rfl
  · rfl
  · rfl
  · rename_i hquote hslash _ _ _ _ _
    split
    · next hcontrol =>
      obtain ⟨a, b, c', d, hdigits, hquad⟩ := hexQuad?_hexDigits (n := c.toNat) (by omega)
      have hlow : c.toNat < 0xD800 ∨ 0xDFFF < c.toNat := .inl (by omega)
      simp only [hdigits, List.cons_append, List.nil_append, readString, hquad, Option.bind_eq_bind,
        Option.bind_some, if_pos hlow, Char.ofNat_toNat]
    · next hcontrol =>
      exact readString_raw hquote hslash hcontrol rest

theorem readString_escaped (cs rest : List Char) :
    readString (cs.flatMap escapeChar ++ '"' :: rest) = some (cs, rest) := by
  induction cs with
  | nil => rfl
  | cons c cs ih =>
    rw [List.flatMap_cons, List.append_assoc, readString_escapeChar, ih]
    rfl

/-! ## Numbers -/

/-- Whether what follows a number cannot be taken for a part of it. -/
def EndsNumber (rest : List Char) : Prop :=
  ∀ c, rest.head? = some c → c.isDigit = false ∧ c ≠ '.' ∧ c ≠ 'e' ∧ c ≠ 'E'

theorem endsNumber_nil : EndsNumber [] := nofun

theorem endsNumber_cons {c : Char} (h : c.isDigit = false ∧ c ≠ '.' ∧ c ≠ 'e' ∧ c ≠ 'E')
    (rest : List Char) : EndsNumber (c :: rest) := by
  intro c' hc
  cases hc
  exact h

theorem spanDigits_append {digits rest : List Char} (hdigits : ∀ c ∈ digits, c.isDigit = true)
    (hrest : EndsNumber rest) : spanDigits (digits ++ rest) = (digits, rest) := by
  have hstop : rest.takeWhile Char.isDigit = [] ∧ rest.dropWhile Char.isDigit = rest := by
    cases rest with
    | nil => exact ⟨rfl, rfl⟩
    | cons c cs =>
      have hc := (hrest c rfl).1
      exact ⟨List.takeWhile_cons_of_neg (by simp [hc]), List.dropWhile_cons_of_neg (by simp [hc])⟩
  rw [spanDigits, List.span_eq_takeWhile_dropWhile, List.takeWhile_append_of_pos hdigits,
    List.dropWhile_append_of_pos hdigits, hstop.1, hstop.2, List.append_nil]

theorem readFraction_of_endsNumber {rest : List Char} (h : EndsNumber rest) :
    readFraction rest = some ([], rest) := by
  unfold readFraction
  split
  · next cs => exact absurd rfl (h '.' rfl).2.1
  · rfl

theorem readExponent_of_endsNumber {rest : List Char} (h : EndsNumber rest) :
    readExponent rest = some ([], rest) := by
  cases rest with
  | nil => rfl
  | cons c cs =>
    obtain ⟨-, -, hlower, hupper⟩ := h c rfl
    exact if_neg (not_or.2 ⟨hlower, hupper⟩)

theorem exists_digit_cons_repr (n : Nat) :
    ∃ c cs, n.repr.toList = c :: cs ∧ c.isDigit = true := by
  obtain ⟨c, cs, hdigits⟩ := List.exists_cons_of_ne_nil (Text.repr_toList_ne_nil n)
  exact ⟨c, cs, hdigits,
    Text.isDigit_of_mem_repr (n := n) (by rw [hdigits]; exact List.mem_cons_self)⟩

/-- A numeral does not begin with a zero, unless that is all of it. -/
theorem head?_toDigits_ne {n : Nat} (h : n ≠ 0) : (Nat.toDigits 10 n).head? ≠ some '0' := by
  induction n using Nat.strongRecOn with
  | ind n ih =>
    by_cases hsmall : n < 10
    · have hall : ∀ n < 10, n ≠ 0 → (Nat.toDigits 10 n).head? ≠ some '0' := by decide
      exact hall n hsmall h
    · have hfront := ih (n / 10) (by omega) (by omega)
      rw [Nat.toDigits_of_base_le (by decide) (by omega)]
      cases hdigits : Nat.toDigits 10 (n / 10) with
      | nil => exact absurd hdigits Nat.toDigits_ne_nil
      | cons c cs =>
        rw [hdigits] at hfront
        exact hfront

theorem digitsValue_repr (n : Nat) : digitsValue n.repr.toList = n := by
  have hvalue : Nat.ofDigitChars 10 (Nat.toDigits 10 n) 0 = n :=
    Nat.ofDigitChars_toDigits (by decide) (by decide)
  rw [Nat.toList_repr]
  exact hvalue

theorem readNumber_repr (negative : Bool) (n : Nat) {rest : List Char} (h : EndsNumber rest) :
    readNumber negative (n.repr.toList ++ rest) =
      some (integerNode negative n.repr.toList, rest) := by
  have hdigits : ∀ c ∈ n.repr.toList, c.isDigit = true := fun _ => Text.isDigit_of_mem_repr
  have hzero : ¬ (n.repr.toList.isEmpty = true ∨
      n.repr.toList.length > 1 ∧ n.repr.toList.head? = some '0') := by
    rintro (hempty | ⟨hlong, hhead⟩)
    · exact Text.repr_toList_ne_nil n (List.isEmpty_iff.1 hempty)
    · rw [Nat.toList_repr] at hlong hhead
      by_cases hn : n = 0
      · rw [hn] at hlong
        exact absurd hlong (by decide)
      · exact head?_toDigits_ne hn hhead
  simp only [readNumber, spanDigits_append hdigits h, if_neg hzero, readFraction_of_endsNumber h,
    readExponent_of_endsNumber h, Option.bind_eq_bind, Option.bind_some, List.isEmpty_nil, and_self,
    if_true, Option.pure_def]

/-! ## Values -/

/-- Whether all numbers of a tree are integers that fit 64 bits, signed if they are negative. -/
inductive Plain : Document → Prop
  | null : Plain null
  | flag (value : Bool) : Plain (flag value)
  | integer {n : Int} (hlow : -(UInt64.size / 2) ≤ n) (hhigh : n < UInt64.size) : Plain (integer n)
  | text (value : String) : Plain (text value)
  | list {items : List Document} (h : ∀ d ∈ items, Plain d) : Plain (list items)
  | record {fields : List (String × Document)} (h : ∀ f ∈ fields, Plain f.2) : Plain (record fields)

theorem Plain.ofNat {n : Nat} (h : n < UInt64.size) : Plain (ofNat n) :=
  .integer (by omega) (by omega)

theorem skipSpace_cons {c : Char} (h : isJsonSpace c = false) (cs : List Char) :
    skipSpace (c :: cs) = c :: cs := List.dropWhile_cons_of_neg (by simp [h])

theorem isJsonSpace_of_isDigit {c : Char} (h : c.isDigit = true) : isJsonSpace c = false := by
  rw [← Bool.not_eq_true]
  intro hspace
  simp only [isJsonSpace, Bool.or_eq_true, decide_eq_true_eq] at hspace
  rcases hspace with ((rfl | rfl) | rfl) | rfl <;> exact absurd h (by decide)

theorem readValue_digit {c : Char} (h : c.isDigit = true) (fuel : Nat) (cs : List Char) :
    readValue (fuel + 1) (c :: cs) = readNumber false (c :: cs) := by
  rw [readValue, skipSpace_cons (isJsonSpace_of_isDigit h)]
  split
  case h_8 => rfl
  all_goals
    rename_i heq
    cases heq
    exact absurd h (by decide)

theorem json_integer_ofNat (n : Nat) : (integer n).json = n.repr.toList := rfl

theorem json_integer_negSucc (n : Nat) :
    (integer (Int.negSucc n)).json = '-' :: (n + 1).repr.toList := by
  have hstring : toString (Int.negSucc n) = "-" ++ (n + 1).repr := rfl
  rw [json, hstring, String.toList_append]
  rfl

theorem readValue_integer {n : Int} (hlow : -(UInt64.size / 2) ≤ n) (hhigh : n < UInt64.size)
    (fuel : Nat) {rest : List Char} (hrest : EndsNumber rest) :
    readValue (fuel + 1) ((integer n).json ++ rest) = some (integer n, rest) := by
  cases n with
  | ofNat n =>
    have hsmall : n < UInt64.size := Int.ofNat_lt.1 hhigh
    have hnode : integerNode false n.repr.toList = integer n := by
      simp only [integerNode, digitsValue_repr, Bool.false_eq_true, if_false, if_pos hsmall]
    have hread := readNumber_repr false n hrest
    have hjson : (integer (Int.ofNat n)).json = n.repr.toList := json_integer_ofNat n
    rw [hjson]
    obtain ⟨c, cs, hdigits, hc⟩ := exists_digit_cons_repr n
    rw [hdigits] at hread hnode ⊢
    rw [List.cons_append, readValue_digit hc, ← List.cons_append, hread, hnode]
    rfl
  | negSucc n =>
    have hsmall : 0 < n + 1 ∧ n + 1 ≤ UInt64.size / 2 := by omega
    have hnode : integerNode true (n + 1).repr.toList = integer (Int.negSucc n) := by
      simp only [integerNode, digitsValue_repr, if_true, if_pos hsmall]
      rfl
    rw [json_integer_negSucc, List.cons_append, readValue, skipSpace_cons (by decide)]
    simp only [readNumber_repr true (n + 1) hrest, hnode]

theorem endsNumber_jsonItems (ds : List Document) (rest : List Char) :
    EndsNumber (jsonItems ds ++ rest) := by
  cases ds with
  | nil => exact endsNumber_cons (by decide) rest
  | cons d ds => exact endsNumber_cons (by decide) _

theorem endsNumber_jsonFields (fs : List (String × Document)) (rest : List Char) :
    EndsNumber (jsonFields fs ++ rest) := by
  cases fs with
  | nil => exact endsNumber_cons (by decide) rest
  | cons f fs => exact endsNumber_cons (by decide) _

theorem jsonItems_length_pos (ds : List Document) : 0 < (jsonItems ds).length := by
  cases ds <;> exact Nat.succ_pos _

theorem jsonFields_length_pos (fs : List (String × Document)) : 0 < (jsonFields fs).length := by
  rcases fs with _ | ⟨⟨name, d⟩, fs⟩ <;> exact Nat.succ_pos _

/-- The text of a tree begins with neither a space nor the end of a list. -/
theorem Plain.json_eq_cons {d : Document} (h : d.Plain) :
    ∃ c cs, d.json = c :: cs ∧ isJsonSpace c = false ∧ c ≠ ']' := by
  cases h with
  | null => exact ⟨_, _, rfl, by decide, by decide⟩
  | flag value => cases value <;> exact ⟨_, _, rfl, by decide, by decide⟩
  | @integer n hlow hhigh =>
    cases n with
    | ofNat n =>
      obtain ⟨c, cs, hdigits, hc⟩ := exists_digit_cons_repr n
      refine ⟨c, cs, hdigits, isJsonSpace_of_isDigit hc, ?_⟩
      rintro rfl
      exact absurd hc (by decide)
    | negSucc n => exact ⟨_, _, json_integer_negSucc n, by decide, by decide⟩
  | text value => exact ⟨_, _, rfl, by decide, by decide⟩
  | @list items h => cases items <;> exact ⟨_, _, rfl, by decide, by decide⟩
  | @record fields h =>
    rcases fields with _ | ⟨⟨name, d⟩, fs⟩ <;> exact ⟨_, _, rfl, by decide, by decide⟩

theorem Plain.json_length_pos {d : Document} (h : d.Plain) : 0 < d.json.length := by
  obtain ⟨c, cs, hjson, -⟩ := h.json_eq_cons
  rw [hjson]
  exact Nat.succ_pos _

theorem readValue_text (s : String) (fuel : Nat) (rest : List Char) :
    readValue (fuel + 1) ((text s).json ++ rest) = some (text s, rest) := by
  have hread := readString_escaped s.toList rest
  rw [json, jsonString, List.cons_append, List.append_assoc, List.singleton_append, readValue,
    skipSpace_cons (by decide)]
  simp only [hread, Option.map_some, String.ofList_toList]

/-! ## Lists and records -/

/-- A list that is not empty is read as its items. -/
theorem readValue_bracket {c : Char} (hspace : isJsonSpace c = false) (hend : c ≠ ']')
    (fuel : Nat) (cs : List Char) : readValue (fuel + 1) ('[' :: c :: cs) =
      (readItems fuel (c :: cs)).map fun (items, cs) => (list items, cs) := by
  rw [readValue, skipSpace_cons (by decide)]
  simp only [skipSpace_cons hspace]
  split
  · next heq =>
    cases heq
    exact absurd rfl hend
  · rfl

/-- A record that is not empty is read as its fields. -/
theorem readValue_brace (name : List Char) (fuel : Nat) (cs : List Char) :
    readValue (fuel + 1) ('\x7b' :: (jsonString name ++ cs)) =
      (readFields fuel (jsonString name ++ cs)).map fun (fields, cs) => (record fields, cs) := by
  have hquote : skipSpace (jsonString name ++ cs) = jsonString name ++ cs :=
    skipSpace_cons (by decide) _
  rw [readValue, skipSpace_cons (by decide)]
  simp only [hquote]
  rfl

theorem readItems_last {fuel : Nat} {cs rest : List Char} {d : Document}
    (h : readValue fuel cs = some (d, ']' :: rest)) :
    readItems (fuel + 1) cs = some ([d], rest) := by
  rw [readItems, h]
  rfl

theorem readItems_more {fuel : Nat} {cs next rest : List Char} {d : Document}
    {ds : List Document} (h : readValue fuel cs = some (d, ',' :: next))
    (hnext : readItems fuel next = some (ds, rest)) :
    readItems (fuel + 1) cs = some (d :: ds, rest) := by
  have hcomma : skipSpace (',' :: next) = ',' :: next := skipSpace_cons (by decide) next
  rw [readItems, h]
  simp only [Option.bind_eq_bind, Option.bind_some, hcomma, hnext, Option.map_some]

/-- After its name, a field is what its value is and what follows the value. -/
theorem readFields_named {fuel : Nat} {cs rest : List Char} {d : Document} (name : String)
    (h : readValue fuel cs = some (d, rest)) :
    readFields (fuel + 1) (jsonString name.toList ++ ':' :: cs) =
      match skipSpace rest with
      | '\x7d' :: rest => some ([(name, d)], rest)
      | ',' :: rest => (readFields fuel rest).map fun (fields, rest) => ((name, d) :: fields, rest)
      | _ => none := by
  have hname := readString_escaped name.toList (':' :: cs)
  have hcolon : skipSpace (':' :: cs) = ':' :: cs := skipSpace_cons (by decide) cs
  rw [readFields, jsonString, List.cons_append, List.append_assoc, List.singleton_append,
    skipSpace_cons (by decide)]
  simp only [hname, Option.bind_eq_bind, Option.bind_some, hcolon, Option.pure_def,
    String.ofList_toList]
  exact h ▸ rfl

theorem readFields_last {fuel : Nat} {cs rest : List Char} {d : Document} (name : String)
    (h : readValue fuel cs = some (d, '\x7d' :: rest)) :
    readFields (fuel + 1) (jsonString name.toList ++ ':' :: cs) = some ([(name, d)], rest) := by
  rw [readFields_named name h, skipSpace_cons (by decide)]
  rfl

theorem readFields_more {fuel : Nat} {cs next rest : List Char} {d : Document}
    {fs : List (String × Document)} (name : String)
    (h : readValue fuel cs = some (d, ',' :: next))
    (hnext : readFields fuel next = some (fs, rest)) :
    readFields (fuel + 1) (jsonString name.toList ++ ':' :: cs) =
      some ((name, d) :: fs, rest) := by
  rw [readFields_named name h, skipSpace_cons (by decide)]
  simp only [hnext, Option.map_some]

/-! ## Trees -/

mutual

/-- The text of a plain tree is read back as that tree, whatever follows it that is not a part of a
number. -/
theorem readValue_json {fuel : Nat} {rest : List Char} : ∀ {d : Document}, d.Plain →
    d.json.length ≤ fuel → EndsNumber rest →
      readValue fuel (d.json ++ rest) = some (d, rest) := by
  intro d h hfuel hrest
  cases fuel with
  | zero => exact absurd hfuel (Nat.not_le.2 h.json_length_pos)
  | succ fuel =>
    match d, h with
    | .null, _ => rfl
    | .flag true, _ => rfl
    | .flag false, _ => rfl
    | .integer n, .integer hlow hhigh => exact readValue_integer hlow hhigh fuel hrest
    | .text s, _ => exact readValue_text s fuel rest
    | .list [], _ => rfl
    | .record [], _ => rfl
    | .list (d :: ds), .list h =>
      obtain ⟨hd, hds⟩ := List.forall_mem_cons.1 h
      rw [json, List.length_cons, List.length_append] at hfuel
      have hread : readItems fuel (d.json ++ (jsonItems ds ++ rest)) = some (d :: ds, rest) :=
        readItems_json hd hds (by omega)
      obtain ⟨c, cs, hjson, hspace, hend⟩ := hd.json_eq_cons
      rw [hjson, List.cons_append] at hread
      rw [json, hjson, List.cons_append, List.append_assoc, List.cons_append,
        readValue_bracket hspace hend, hread]
      rfl
    | .record ((name, d) :: fs), .record h =>
      obtain ⟨hd, hfs⟩ := List.forall_mem_cons.1 h
      rw [json, List.length_cons, List.length_append, List.length_cons, List.length_append] at hfuel
      have hfit : d.json.length + (jsonFields fs).length ≤ fuel := by omega
      have hread : readFields fuel
          (jsonString name.toList ++ ':' :: (d.json ++ (jsonFields fs ++ rest))) =
            some ((name, d) :: fs, rest) := readFields_json name hd hfs hfit
      rw [json, List.cons_append, List.append_assoc, List.cons_append, List.append_assoc,
        readValue_brace, hread]
      rfl

theorem readItems_json {fuel : Nat} {rest : List Char} : ∀ {d : Document} {ds : List Document},
    d.Plain → (∀ d ∈ ds, d.Plain) → d.json.length + (jsonItems ds).length ≤ fuel →
      readItems fuel (d.json ++ (jsonItems ds ++ rest)) = some (d :: ds, rest) := by
  intro d ds hd hds hfuel
  have hpos := jsonItems_length_pos ds
  obtain ⟨fuel, rfl⟩ : ∃ n, fuel = n + 1 := ⟨fuel - 1, by omega⟩
  have hfirst : d.json.length ≤ fuel := by omega
  -- A comma or the end of the list follows, so an item that is a number ends here.
  have hvalue := readValue_json hd hfirst (endsNumber_jsonItems ds rest)
  match ds with
  | [] => exact readItems_last hvalue
  | next :: ds =>
    obtain ⟨hnext, hds⟩ := List.forall_mem_cons.1 hds
    rw [jsonItems, List.length_cons, List.length_append] at hfuel
    rw [jsonItems, List.cons_append, List.append_assoc] at hvalue ⊢
    exact readItems_more hvalue (readItems_json hnext hds (by omega))

theorem readFields_json {fuel : Nat} {rest : List Char} : ∀ {d : Document}
    {fs : List (String × Document)} (name : String), d.Plain → (∀ f ∈ fs, f.2.Plain) →
      d.json.length + (jsonFields fs).length ≤ fuel →
        readFields fuel (jsonString name.toList ++ ':' :: (d.json ++ (jsonFields fs ++ rest))) =
          some ((name, d) :: fs, rest) := by
  intro d fs name hd hfs hfuel
  have hpos := jsonFields_length_pos fs
  obtain ⟨fuel, rfl⟩ : ∃ n, fuel = n + 1 := ⟨fuel - 1, by omega⟩
  have hfirst : d.json.length ≤ fuel := by omega
  have hvalue := readValue_json hd hfirst (endsNumber_jsonFields fs rest)
  match fs with
  | [] => exact readFields_last name hvalue
  | (other, next) :: fs =>
    obtain ⟨hnext, hfs⟩ := List.forall_mem_cons.1 hfs
    rw [jsonFields, List.length_cons, List.length_append, List.length_cons, List.length_append]
      at hfuel
    rw [jsonFields, List.cons_append, List.append_assoc, List.cons_append, List.append_assoc]
      at hvalue ⊢
    exact readFields_more name hvalue (readFields_json other hnext hfs (by omega))

end

/-- A plain tree is read back from its text, with or without space after it. -/
theorem ofJson?_json {d : Document} (h : d.Plain) {space : List Char}
    (hspace : ∀ c ∈ space, isJsonSpace c = true) : ofJson? (d.json ++ space) = some d := by
  have hskip : skipSpace space = [] := List.dropWhile_eq_nil_iff.2 hspace
  have hends : EndsNumber space := by
    cases space with
    | nil => exact endsNumber_nil
    | cons c cs =>
      have hc := hspace c List.mem_cons_self
      simp only [isJsonSpace, Bool.or_eq_true, decide_eq_true_eq] at hc
      refine endsNumber_cons ?_ cs
      rcases hc with ((rfl | rfl) | rfl) | rfl <;> decide
  have hfuel : d.json.length ≤ (d.json ++ space).length + 1 := by
    rw [List.length_append]
    omega
  simp only [ofJson?, readValue_json h hfuel hends, Option.bind_eq_bind, Option.bind_some, hskip,
    List.isEmpty_nil, if_true, Option.pure_def]

/-! ## Control characters -/

theorem le_of_mem_hexDigits {width n : Nat} {c : Char} (h : c ∈ Text.hexDigits width n) :
    32 ≤ c.toNat := by
  obtain ⟨m, hm, rfl⟩ := Text.exists_of_mem_hexDigits h
  have hall : ∀ m < 16, 32 ≤ (Text.hexDigit m).toNat := by decide
  exact hall m hm

theorem le_of_mem_escapeChar {c c' : Char} (h : c' ∈ escapeChar c) : 32 ≤ c'.toNat := by
  have hpair : ∀ {a b : Char}, c' ∈ [a, b] → 32 ≤ a.toNat → 32 ≤ b.toNat → 32 ≤ c'.toNat := by
    intro a b h ha hb
    rcases List.mem_cons.1 h with rfl | h
    · exact ha
    · rwa [List.mem_singleton.1 h]
  unfold escapeChar at h
  split at h
  case h_8 =>
    split at h
    · rcases List.mem_cons.1 h with rfl | h
      · decide
      · rcases List.mem_cons.1 h with rfl | h
        · decide
        · exact le_of_mem_hexDigits h
    · next hcontrol =>
      rw [List.mem_singleton.1 h]
      exact Nat.le_of_not_lt hcontrol
  all_goals exact hpair h (by decide) (by decide)

theorem le_of_mem_jsonString {cs : List Char} {c : Char} (h : c ∈ jsonString cs) :
    32 ≤ c.toNat := by
  rcases List.mem_cons.1 h with rfl | h
  · decide
  · rcases List.mem_append.1 h with h | h
    · obtain ⟨c', -, h⟩ := List.mem_flatMap.1 h
      exact le_of_mem_escapeChar h
    · rw [List.mem_singleton.1 h]
      decide

theorem le_of_mem_json_integer {n : Int} {c : Char} (h : c ∈ (integer n).json) : 32 ≤ c.toNat := by
  have hdigit : ∀ {n : Nat}, c ∈ n.repr.toList → 32 ≤ c.toNat := by
    intro n h
    have hbounds := Text.isDigit_bounds (Text.isDigit_of_mem_repr h)
    omega
  cases n with
  | ofNat n => exact hdigit h
  | negSucc n =>
    rw [json_integer_negSucc] at h
    rcases List.mem_cons.1 h with rfl | h
    · decide
    · exact hdigit h

theorem le_of_all {cs : List Char} {c : Char} (hall : cs.all (32 ≤ ·.toNat) = true) (h : c ∈ cs) :
    32 ≤ c.toNat := of_decide_eq_true (List.all_eq_true.1 hall c h)

mutual

/-- The text of a plain tree holds no control character. -/
theorem le_of_mem_json {c : Char} : ∀ {d : Document}, d.Plain → c ∈ d.json → 32 ≤ c.toNat := by
  intro d hd h
  match d, hd with
  | .null, _ => exact le_of_all (by decide) h
  | .flag true, _ => exact le_of_all (by decide) h
  | .flag false, _ => exact le_of_all (by decide) h
  | .integer n, _ => exact le_of_mem_json_integer h
  | .text s, _ => exact le_of_mem_jsonString h
  | .list [], _ => exact le_of_all (by decide) h
  | .record [], _ => exact le_of_all (by decide) h
  | .list (d :: ds), .list hplain =>
    obtain ⟨hd, hds⟩ := List.forall_mem_cons.1 hplain
    rw [json, List.mem_cons, List.mem_append] at h
    rcases h with rfl | h | h
    · decide
    · exact le_of_mem_json hd h
    · exact le_of_mem_jsonItems hds h
  | .record ((name, d) :: fs), .record hplain =>
    obtain ⟨hd, hfs⟩ := List.forall_mem_cons.1 hplain
    rw [json, List.mem_cons, List.mem_append, List.mem_cons, List.mem_append] at h
    rcases h with rfl | h | rfl | h | h
    · decide
    · exact le_of_mem_jsonString h
    · decide
    · exact le_of_mem_json hd h
    · exact le_of_mem_jsonFields hfs h

theorem le_of_mem_jsonItems {c : Char} : ∀ {ds : List Document}, (∀ d ∈ ds, d.Plain) →
    c ∈ jsonItems ds → 32 ≤ c.toNat := by
  intro ds hplain h
  match ds with
  | [] =>
    rw [List.mem_singleton.1 h]
    decide
  | d :: ds =>
    obtain ⟨hd, hds⟩ := List.forall_mem_cons.1 hplain
    rw [jsonItems, List.mem_cons, List.mem_append] at h
    rcases h with rfl | h | h
    · decide
    · exact le_of_mem_json hd h
    · exact le_of_mem_jsonItems hds h

theorem le_of_mem_jsonFields {c : Char} : ∀ {fs : List (String × Document)},
    (∀ f ∈ fs, f.2.Plain) → c ∈ jsonFields fs → 32 ≤ c.toNat := by
  intro fs hplain h
  match fs with
  | [] =>
    rw [List.mem_singleton.1 h]
    decide
  | (name, d) :: fs =>
    obtain ⟨hd, hfs⟩ := List.forall_mem_cons.1 hplain
    rw [jsonFields, List.mem_cons, List.mem_append, List.mem_cons, List.mem_append] at h
    rcases h with rfl | h | rfl | h | h
    · decide
    · exact le_of_mem_jsonString h
    · decide
    · exact le_of_mem_json hd h
    · exact le_of_mem_jsonFields hfs h

end

end SqlReplay.Document
