import Mathlib.Data.List.TakeWhile
import Mathlib.Order.Bounds.Basic
import SqlReplay.Log.ReplayLog
import SqlReplay.Proofs.Text.Cuts

/-!
# What is extracted from a log

The block opens at the least line number at which a line opens it, and the statements are the lines
from there on that are neither blank nor comments (`LogFormat.parse_eligible`).  Their line numbers
are told by two facts: they increase, and they are the numbers of those lines.  Both come from the
numbering of lines, which increases along the text (`Text.pairwise_numberFrom`), as dropping lines
up to the first that opens the block and leaving out others keeps their order.
-/

namespace SqlReplay

namespace Text

/-! ## Numbered lines -/

section Numbering

variable {α : Type} {as : List α} {start : ℕ}

theorem getElem?_numberFrom (k : ℕ) :
    (numberFrom start as)[k]? = as[k]?.map fun a => (start + k, a) := by
  induction as generalizing start k with
  | nil => rfl
  | cons a as ih =>
    cases k with
    | zero => rfl
    | succ k =>
      rw [numberFrom, List.getElem?_cons_succ, List.getElem?_cons_succ, ih]
      simp only [Nat.add_assoc, Nat.add_comm 1 k]

theorem mem_numberFrom {i : ℕ} {a : α} :
    (i, a) ∈ numberFrom start as ↔ start ≤ i ∧ as[i - start]? = some a := by
  rw [List.mem_iff_getElem?]
  constructor
  · rintro ⟨k, hk⟩
    rw [getElem?_numberFrom, Option.map_eq_some_iff] at hk
    obtain ⟨a', ha, heq⟩ := hk
    cases heq
    exact ⟨Nat.le_add_right start k, by rwa [Nat.add_sub_cancel_left]⟩
  · rintro ⟨hstart, ha⟩
    refine ⟨i - start, ?_⟩
    rw [getElem?_numberFrom, ha, Option.map_some, Nat.add_sub_of_le hstart]

theorem pairwise_numberFrom : (numberFrom start as).Pairwise fun x y => x.1 < y.1 := by
  induction as generalizing start with
  | nil => exact List.Pairwise.nil
  | cons a as ih =>
    refine List.pairwise_cons.2 ⟨?_, ih⟩
    rintro ⟨i, b⟩ hmem
    have hle := (mem_numberFrom.1 hmem).1
    exact hle

theorem length_numberFrom : (numberFrom start as).length = as.length := by
  induction as generalizing start with
  | nil => rfl
  | cons a as ih => rw [numberFrom, List.length_cons, List.length_cons, ih]

theorem map_fst_numberFrom : (numberFrom start as).map Prod.fst = List.range' start as.length := by
  induction as generalizing start with
  | nil => rfl
  | cons a as ih => rw [numberFrom, List.map_cons, ih, List.length_cons, List.range'_succ]

theorem map_snd_numberFrom : (numberFrom start as).map Prod.snd = as := by
  induction as generalizing start with
  | nil => rfl
  | cons a as ih => rw [numberFrom, List.map_cons, ih]

theorem numberFrom_map {β : Type} (f : α → β) :
    numberFrom start (as.map f) = (numberFrom start as).map fun l => (l.1, f l.2) := by
  induction as generalizing start with
  | nil => rfl
  | cons a as ih => rw [List.map_cons, numberFrom, ih, numberFrom, List.map_cons]

end Numbering

/-- Whether the line with a number, counted from one, is a given one without the blanks around
it. -/
def LineAt (text : List Char) (number : ℕ) (line : List Char) : Prop :=
  0 < number ∧ ∃ raw, (lines text)[number - 1]? = some raw ∧ trim raw = line

theorem LineAt.unique {text line line' : List Char} {i : ℕ} (h : LineAt text i line)
    (h' : LineAt text i line') : line = line' := by
  obtain ⟨-, raw, hraw, rfl⟩ := h
  obtain ⟨-, raw', hraw', rfl⟩ := h'
  rw [hraw] at hraw'
  cases hraw'
  rfl

theorem mem_numberedLines_trim {text : List Char} {number : ℕ} {line : List Char} :
    (number, line) ∈ (numberedLines text).map (fun l => (l.1, trim l.2)) ↔
      LineAt text number line := by
  rw [List.mem_map]
  constructor
  · rintro ⟨⟨i, raw⟩, hmem, heq⟩
    cases heq
    obtain ⟨hpos, hraw⟩ := mem_numberFrom.1 hmem
    exact ⟨hpos, raw, hraw, rfl⟩
  · rintro ⟨hpos, raw, hraw, rfl⟩
    exact ⟨(number, raw), mem_numberFrom.2 ⟨hpos, hraw⟩, rfl⟩

end Text

/-! ## The rest of a list from the first that is wanted -/

section Rest

variable {α : Type} {p : ℕ × α → Bool} {l rest : List (ℕ × α)} {x : ℕ × α}

theorem mem_of_dropWhile_eq_cons (h : l.dropWhile p = x :: rest) : x ∈ l ∧ p x = false := by
  have hhead := List.head?_dropWhile_not p l
  rw [h] at hhead
  exact ⟨(List.dropWhile_suffix p).mem (h ▸ List.mem_cons_self), hhead⟩

theorem mem_dropWhile_iff (hl : l.Pairwise fun a b => a.1 < b.1) (h : l.dropWhile p = x :: rest)
    {y : ℕ × α} : y ∈ l.dropWhile p ↔ y ∈ l ∧ x.1 ≤ y.1 := by
  have hsplit : l.takeWhile p ++ l.dropWhile p = l := List.takeWhile_append_dropWhile
  rw [← hsplit, List.pairwise_append] at hl
  obtain ⟨-, hdrop, hcross⟩ := hl
  constructor
  · intro hy
    refine ⟨(List.dropWhile_suffix p).mem hy, ?_⟩
    rw [h] at hy hdrop
    rcases List.mem_cons.1 hy with rfl | hy
    · exact Nat.le_refl _
    · exact Nat.le_of_lt ((List.pairwise_cons.1 hdrop).1 y hy)
  · rintro ⟨hy, hle⟩
    rw [← hsplit, List.mem_append] at hy
    rcases hy with hy | hy
    · have hlt := hcross y hy x (h ▸ List.mem_cons_self)
      omega
    · exact hy

/-- Every other that is wanted comes after the first. -/
theorem le_of_dropWhile_eq_cons (hl : l.Pairwise fun a b => a.1 < b.1)
    (h : l.dropWhile p = x :: rest) {y : ℕ × α} (hy : y ∈ l) (hp : p y = false) : x.1 ≤ y.1 := by
  refine ((mem_dropWhile_iff hl h).1 ?_).2
  have hsplit : l.takeWhile p ++ l.dropWhile p = l := List.takeWhile_append_dropWhile
  rw [← hsplit, List.mem_append] at hy
  rcases hy with hy | hy
  · rw [List.mem_takeWhile_imp hy] at hp
    cases hp
  · exact hy

end Rest

namespace LogFormat

/-! ## Statements -/

/-- Whether the line with a number opens the block. -/
def OpensAt (opening : String) (text : List Char) (number : ℕ) : Prop :=
  ∃ line, Text.LineAt text number line ∧
    Text.upper (Text.trim opening.toList) <+: Text.upper line

/-- Whether the line with a number is neither blank nor a comment. -/
def EligibleAt (marker : String) (text : List Char) (number : ℕ) : Prop :=
  ∃ line, Text.LineAt text number line ∧ line ≠ [] ∧ ¬ Text.trim marker.toList <+: line

theorem opening_default : default.opening = defaultOpening.toList := by decide

theorem marker_default : default.marker = defaultMarker.toList := by decide

/-- The block depends on the lines without the blanks around them. -/
theorem block_eq (format : LogFormat) (text : List Char) :
    format.block text = (Text.numberFrom 1 ((Text.lines text).map Text.trim)).dropWhile
      fun l => !format.opens l.2 := by
  rw [Text.numberFrom_map]
  rfl

section Statements

variable (opening marker : String) {text : List Char}

theorem opens_iff (line : List Char) :
    (ofMarkers opening marker).opens line = true ↔
      Text.upper (Text.trim opening.toList) <+: Text.upper line :=
  List.isPrefixOf_iff_prefix

theorem isStatement_iff (line : List Char) :
    (ofMarkers opening marker).isStatement line = true ↔
      line ≠ [] ∧ ¬ Text.trim marker.toList <+: line := by
  rw [isStatement, Bool.and_eq_true, Bool.not_eq_true', List.isEmpty_eq_false_iff, isComment,
    Bool.not_eq_true', ← Bool.not_eq_true, List.isPrefixOf_iff_prefix]
  rfl

theorem pairwise_trimmedLines (text : List Char) :
    ((Text.numberedLines text).map fun l => (l.1, Text.trim l.2)).Pairwise
      fun a b => a.1 < b.1 := by
  rw [List.pairwise_map]
  exact Text.pairwise_numberFrom

variable {x : ℕ × List Char} {rest : List (ℕ × List Char)}

/-- The line with which the block begins is the first that opens it. -/
theorem isLeast_of_block_eq_cons (h : (ofMarkers opening marker).block text = x :: rest) :
    IsLeast {i | OpensAt opening text i} x.1 := by
  obtain ⟨number, line⟩ := x
  obtain ⟨hmem, hopens⟩ := mem_of_dropWhile_eq_cons h
  rw [Bool.not_eq_false', opens_iff] at hopens
  refine ⟨⟨line, Text.mem_numberedLines_trim.1 hmem, hopens⟩, ?_⟩
  rintro i ⟨line', hline, hopens'⟩
  have hnot : (!(ofMarkers opening marker).opens line') = false := by
    rw [Bool.not_eq_false', opens_iff]
    exact hopens'
  exact le_of_dropWhile_eq_cons (pairwise_trimmedLines text) h
    (Text.mem_numberedLines_trim.2 hline) hnot

theorem not_opensAt_of_block_eq_nil (h : (ofMarkers opening marker).block text = []) (i : ℕ) :
    ¬ OpensAt opening text i := by
  rintro ⟨line, hline, hopens⟩
  have hall := List.dropWhile_eq_nil_iff.1 h _ (Text.mem_numberedLines_trim.2 hline)
  rw [Bool.not_eq_true', ← Bool.not_eq_true, opens_iff] at hall
  exact hall hopens

theorem blockStart_eq_some_iff (s : ℕ) :
    ((ofMarkers opening marker).parse text).blockStart = some s ↔
      IsLeast {i | OpensAt opening text i} s := by
  simp only [parse]
  cases hblock : (ofMarkers opening marker).block text with
  | nil =>
    have hnone := not_opensAt_of_block_eq_nil opening marker hblock
    exact iff_of_false nofun fun h => hnone s h.1
  | cons x rest =>
    have hleast := isLeast_of_block_eq_cons opening marker hblock
    rw [List.head?_cons, Option.map_some, Option.some.injEq]
    constructor
    · rintro rfl
      exact hleast
    · exact hleast.unique

theorem block_eq_nil_of_blockStart_eq_none
    (h : ((ofMarkers opening marker).parse text).blockStart = none) :
    (ofMarkers opening marker).block text = [] := by
  simp only [parse] at h
  cases hblock : (ofMarkers opening marker).block text with
  | nil => rfl
  | cons x rest =>
    rw [hblock] at h
    cases h

theorem blockStart_eq_none_iff :
    ((ofMarkers opening marker).parse text).blockStart = none ↔ ∀ i, ¬ OpensAt opening text i := by
  constructor
  · intro h
    exact not_opensAt_of_block_eq_nil opening marker (block_eq_nil_of_blockStart_eq_none _ _ h)
  · intro hnot
    cases hstart : ((ofMarkers opening marker).parse text).blockStart with
    | none => rfl
    | some s => exact absurd ((blockStart_eq_some_iff opening marker s).1 hstart).1 (hnot s)

theorem statements_eq_nil (h : ((ofMarkers opening marker).parse text).blockStart = none) :
    ((ofMarkers opening marker).parse text).statements = [] := by
  simp only [parse, block_eq_nil_of_blockStart_eq_none opening marker h]
  rfl

theorem getElem?_placed (ls : List (ℕ × List Char)) (k : ℕ) :
    (placed ls)[k]? = ls[k]?.map fun l => ⟨k + 1, l.1, String.ofList l.2⟩ := by
  rw [placed, List.getElem?_map, Text.getElem?_numberFrom, Option.map_map, Nat.add_comm]
  rfl

theorem map_line_placed (ls : List (ℕ × List Char)) :
    (placed ls).map LoggedStatement.line = ls.map Prod.fst := by
  apply List.ext_getElem?
  intro k
  rw [List.getElem?_map, getElem?_placed, Option.map_map, List.getElem?_map]
  rfl

theorem map_position_placed (ls : List (ℕ × List Char)) :
    (placed ls).map LoggedStatement.position = List.range' 1 (placed ls).length := by
  rw [placed, List.map_map, List.length_map, Text.length_numberFrom, ← Text.map_fst_numberFrom]
  rfl

/-- The statements of a block, by their lines. -/
theorem mem_statementLines_iff (h : (ofMarkers opening marker).block text = x :: rest)
    (number : ℕ) (line : List Char) :
    (number, line) ∈ ((ofMarkers opening marker).block text).filter
        (fun l => (ofMarkers opening marker).isStatement l.2) ↔
      x.1 ≤ number ∧ Text.LineAt text number line ∧ line ≠ [] ∧
        ¬ Text.trim marker.toList <+: line := by
  have hblock : (number, line) ∈ (ofMarkers opening marker).block text ↔
      Text.LineAt text number line ∧ x.1 ≤ number := by
    rw [← Text.mem_numberedLines_trim]
    exact mem_dropWhile_iff (pairwise_trimmedLines text) h
  rw [List.mem_filter, isStatement_iff, hblock]
  constructor
  · rintro ⟨⟨hline, hle⟩, heligible⟩
    exact ⟨hle, hline, heligible⟩
  · rintro ⟨hle, hline, heligible⟩
    exact ⟨⟨hline, hle⟩, heligible⟩

theorem mem_map_line_iff {s : ℕ}
    (h : ((ofMarkers opening marker).parse text).blockStart = some s) (i : ℕ) :
    i ∈ ((ofMarkers opening marker).parse text).statements.map LoggedStatement.line ↔
      s ≤ i ∧ EligibleAt marker text i := by
  simp only [parse] at h ⊢
  cases hblock : (ofMarkers opening marker).block text with
  | nil =>
    rw [hblock] at h
    cases h
  | cons x rest =>
    obtain rfl : x.1 = s := by
      rw [hblock] at h
      exact Option.some.inj h
    have hmem := mem_statementLines_iff opening marker hblock
    rw [hblock] at hmem
    rw [map_line_placed, List.mem_map]
    constructor
    · rintro ⟨⟨number, line⟩, hline, rfl⟩
      obtain ⟨hle, hat, heligible⟩ := (hmem number line).1 hline
      exact ⟨hle, line, hat, heligible⟩
    · rintro ⟨hle, line, hat, heligible⟩
      exact ⟨(i, line), (hmem i line).2 ⟨hle, hat, heligible⟩, rfl⟩

theorem pairwise_line :
    (((ofMarkers opening marker).parse text).statements.map LoggedStatement.line).Pairwise
      (· < ·) := by
  simp only [parse]
  rw [map_line_placed, List.pairwise_map]
  have hblock := (pairwise_trimmedLines text).sublist
    (List.dropWhile_sublist fun l => !(ofMarkers opening marker).opens l.2)
  exact hblock.sublist List.filter_sublist

/-- What a statement tells of itself. -/
theorem getElem?_statements {k : ℕ} {statement : LoggedStatement}
    (h : ((ofMarkers opening marker).parse text).statements[k]? = some statement) :
    statement.position = k + 1 ∧ Text.LineAt text statement.line statement.sql.toList ∧
      statement.sql.toList ≠ [] ∧ ¬ Text.trim marker.toList <+: statement.sql.toList := by
  simp only [parse] at h
  rw [getElem?_placed, Option.map_eq_some_iff] at h
  obtain ⟨⟨number, line⟩, hline, rfl⟩ := h
  obtain ⟨hblock, hstatement⟩ := List.mem_filter.1 (List.mem_of_getElem? hline)
  have hlisted := (List.dropWhile_sublist _).mem hblock
  rw [String.toList_ofList]
  exact ⟨rfl, Text.mem_numberedLines_trim.1 hlisted,
    (isStatement_iff opening marker line).1 hstatement⟩

/-- The block opens at the first line that opens it, and from there on every line that is neither
blank nor a comment is a statement, in order.  Each tells its place among the statements, the number
of its line, and that line without the blanks around it; so no statement is empty, a comment or
padded, and each can be found where it tells. -/
theorem parse_eligible (opening marker : String) (text : List Char) :
    let log := (ofMarkers opening marker).parse text
    (∀ s, log.blockStart = some s ↔ IsLeast {i | OpensAt opening text i} s) ∧
    (log.blockStart = none ↔ ∀ i, ¬ OpensAt opening text i) ∧
    (log.blockStart = none → log.statements = []) ∧
    (∀ s, log.blockStart = some s → ∀ i,
      i ∈ log.statements.map LoggedStatement.line ↔ s ≤ i ∧ EligibleAt marker text i) ∧
    (log.statements.map LoggedStatement.line).Pairwise (· < ·) ∧
    log.statements.map LoggedStatement.position = List.range' 1 log.size ∧
    ∀ k statement, log.statements[k]? = some statement →
      statement.position = k + 1 ∧ Text.LineAt text statement.line statement.sql.toList ∧
      statement.sql ≠ "" ∧ ¬ Text.trim marker.toList <+: statement.sql.toList ∧
      Text.trimmed statement.sql = statement.sql ∧
      ∃ raw, (Text.lines text)[statement.line - 1]? = some raw ∧ statement.sql.toList <:+: raw := by
  intro log
  refine ⟨blockStart_eq_some_iff opening marker, blockStart_eq_none_iff opening marker,
    statements_eq_nil opening marker, fun s => mem_map_line_iff opening marker,
    pairwise_line opening marker, map_position_placed _, ?_⟩
  intro k statement hk
  obtain ⟨hposition, hat, hfull, hcomment⟩ := getElem?_statements opening marker hk
  obtain ⟨hpos, raw, hraw, hsql⟩ := hat
  refine ⟨hposition, ⟨hpos, raw, hraw, hsql⟩, ?_, hcomment, ?_, raw, hraw, ?_⟩
  · rintro hempty
    rw [hempty] at hfull
    exact hfull rfl
  · rw [← String.toList_inj, Text.toList_trimmed, ← hsql, Text.trim_trim]
  · rw [← hsql]
    exact Text.trim_infix raw

end Statements

end LogFormat

end SqlReplay
