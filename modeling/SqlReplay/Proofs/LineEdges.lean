import Mathlib.Data.List.Forall2
import SqlReplay.Proofs.Log.Extraction
import SqlReplay.Proofs.Weights.Grammar

/-!
# The edges of lines

Logs and weight tables are read line by line, each line without the blanks around it.  Two texts
with the same lines but for such blanks are read alike (`same_lines_read_alike`).  Texts that differ
in how lines end are of this kind: of the carriage returns before a line feed one belongs to the
ending and the others to the line, where they are blanks (`Text.sameLines_withReturns`).  So are
texts that differ in how lines are indented (`Text.sameLines_framed`).
-/

namespace SqlReplay

namespace Text

/-- Whether two texts have equally many lines, each the same but for the blanks around it. -/
def SameLines (text text' : List Char) : Prop :=
  List.Forall₂ (fun line line' => trim line = trim line') (lines text) (lines text')

/-- The text with a carriage return before each line feed. -/
def withReturns (text : List Char) : List Char :=
  text.flatMap fun c => if c = '\n' then ['\r', '\n'] else [c]

/-- The lines of the text, each set between two others and ended by a line feed. -/
def framed (before after text : List Char) : List Char :=
  (lines text).flatMap fun line => (before ++ line ++ after) ++ ['\n']

/-- Whether a text consists of blanks and ends no line. -/
def IsPadding (cs : List Char) : Prop := ∀ c ∈ cs, isBlank c = true ∧ c ≠ '\n'

theorem sameLines_iff {text text' : List Char} :
    SameLines text text' ↔ (lines text).map trim = (lines text').map trim := by
  rw [← List.forall₂_eq_eq_eq, List.forall₂_map_left_iff, List.forall₂_map_right_iff, SameLines]

/-! ## Blanks around a text -/

section Blanks

variable {blanks : List Char} (h : ∀ c ∈ blanks, isBlank c = true)
include h

theorem trim_append_blanks (cs : List Char) : trim (cs ++ blanks) = trim cs := by
  have hend (front : List Char) : trimEnd (front ++ blanks) = trimEnd front := by
    have hreverse : ∀ c ∈ blanks.reverse, isBlank c = true :=
      fun c hc => h c (List.mem_reverse.1 hc)
    rw [trimEnd, List.reverse_append, List.dropWhile_append_of_pos hreverse, trimEnd]
  rw [trim, trimStart, List.dropWhile_append, trim, trimStart]
  cases cs.dropWhile isBlank with
  | nil =>
    have hblanks : blanks.dropWhile isBlank = [] := List.dropWhile_eq_nil_iff.2 h
    rw [List.isEmpty_nil, if_pos rfl, hblanks]
  | cons c rest => exact hend (c :: rest)

theorem trim_blanks_append (cs : List Char) : trim (blanks ++ cs) = trim cs := by
  rw [trim, trimStart, List.dropWhile_append_of_pos h, trim, trimStart]

end Blanks

/-- The carriage return that belongs to the ending of a line is a blank. -/
theorem trim_reverse_dropReturn (line : List Char) :
    trim (dropReturn line).reverse = trim line.reverse := by
  unfold dropReturn
  split
  · have hreturn : ∀ c ∈ ['\r'], isBlank c = true := List.forall_mem_singleton.2 rfl
    rw [List.reverse_cons, trim_append_blanks hreturn]
  · rfl

/-! ## Texts with the same lines -/

theorem withReturns_cons {c : Char} (hc : c ≠ '\n') (cs : List Char) :
    withReturns (c :: cs) = c :: withReturns cs := by
  rw [withReturns, List.flatMap_cons, if_neg hc]
  rfl

/-- What has been read of a line is the same in both texts, as only its ending differs. -/
theorem map_trim_linesFrom_withReturns (line cs : List Char) :
    (linesFrom line (withReturns cs)).map trim = (linesFrom line cs).map trim := by
  induction cs generalizing line with
  | nil => rfl
  | cons c cs ih =>
    by_cases hc : c = '\n'
    · subst hc
      have hreturn : linesFrom line (withReturns ('\n' :: cs)) =
          line.reverse :: linesFrom [] (withReturns cs) := rfl
      rw [hreturn, List.map_cons, ih, linesFrom, if_pos rfl, List.map_cons, trim_reverse_dropReturn]
    · rw [withReturns_cons hc, linesFrom, if_neg hc, ih, linesFrom, if_neg hc]

theorem sameLines_withReturns (text : List Char) : SameLines text (withReturns text) :=
  sameLines_iff.2 (map_trim_linesFrom_withReturns [] text).symm

theorem sameLines_framed {before after : List Char} (hbefore : IsPadding before)
    (hafter : IsPadding after) (text : List Char) : SameLines text (framed before after text) := by
  have hnewline : ∀ line ∈ lines text, '\n' ∉ before ++ line ++ after := by
    intro line hline
    rw [List.mem_append, List.mem_append, not_or, not_or]
    exact ⟨⟨fun h => (hbefore _ h).2 rfl, not_mem_of_mem_lines hline⟩, fun h => (hafter _ h).2 rfl⟩
  rw [sameLines_iff, framed, lines_flatMap_ended hnewline, List.map_map]
  refine List.map_congr_left fun line _ => ?_
  calc trim line
      = trim (before ++ line ++ after) := by
        rw [trim_append_blanks fun c hc => (hafter c hc).1,
          trim_blanks_append fun c hc => (hbefore c hc).1]
    _ = trim (dropReturn (before ++ line ++ after).reverse).reverse := by
        rw [trim_reverse_dropReturn, List.reverse_reverse]

end Text

/-! ## What is read -/

theorem LogFormat.parse_of_sameLines (format : LogFormat) {text text' : List Char}
    (h : Text.SameLines text text') : format.parse text = format.parse text' := by
  have hblock : format.block text = format.block text' := by
    rw [block_eq, Text.sameLines_iff.1 h, block_eq]
  rw [parse, hblock, parse]

namespace Weights

theorem readRecords_map_trim (start : ℕ) (lines : List (List Char)) :
    readRecords (Text.numberFrom start (lines.map Text.trim)) =
      readRecords (Text.numberFrom start lines) := by
  induction lines generalizing start with
  | nil => rfl
  | cons line lines ih =>
    simp only [List.map_cons, Text.numberFrom, readRecords, Text.trim_trim, ih]

theorem Table.parse_of_sameLines {text text' : List Char} (h : Text.SameLines text text') :
    parse text = parse text' := by
  rw [parse, Text.numberedLines, ← readRecords_map_trim, Text.sameLines_iff.1 h,
    readRecords_map_trim, parse, Text.numberedLines]

end Weights

/-- Two texts with the same lines but for the blanks around them are the same log in each format,
and they are read as the same weight table, or both fail at the same line for the same reason.  A
carriage return before each line feed leaves the lines of a text the same, and so does any padding
on both sides of each. -/
theorem same_lines_read_alike :
    (∀ text text', Text.SameLines text text' →
      (∀ format : LogFormat, format.parse text = format.parse text') ∧
      ∀ origin origin',
        (∃ table, Weights.Table.ofText origin text = .ok table ∧
          Weights.Table.ofText origin' text' = .ok table) ∨
        ∃ number details,
          Weights.Table.ofText origin text = .error (.weightTable origin number details) ∧
          Weights.Table.ofText origin' text' = .error (.weightTable origin' number details)) ∧
    (∀ text, Text.SameLines text (Text.withReturns text)) ∧
    ∀ before after text, Text.IsPadding before → Text.IsPadding after →
      Text.SameLines text (Text.framed before after text) := by
  refine ⟨?_, Text.sameLines_withReturns, ?_⟩
  · intro text text' same
    refine ⟨fun format => format.parse_of_sameLines same, fun origin origin' => ?_⟩
    rw [Weights.Table.ofText, Weights.Table.ofText, Weights.Table.parse_of_sameLines same]
    cases Weights.Table.parse text' with
    | ok table => exact Or.inl ⟨table, rfl, rfl⟩
    | error fault => exact Or.inr ⟨fault.line, fault.cause.message, rfl, rfl⟩
  · intro before after text hbefore hafter
    exact Text.sameLines_framed hbefore hafter text

/-- A text of a few lines, the last of them not ended. -/
def plainLines : List Char := "noise\n create\rtable\n\nCREATE TABLE t\n-- c\nA:1\r".toList

/-- The same lines with other blanks around them, among them characters that end lines elsewhere. -/
def frayedLines : List Char :=
  ("noise\r\ncreate\rtable \r\r\n\u2028\n" ++
    "\u3000CREATE TABLE t\u0085\r\n\t-- c\n\r\rA:1").toList

/-- Only a line feed ends a line, and a carriage return inside a line stays. -/
theorem same_lines_read_alike_frayed :
    Text.SameLines plainLines frayedLines ∧
      LogFormat.default.parse frayedLines =
        ⟨none, some 4, [⟨1, 4, "CREATE TABLE t"⟩, ⟨2, 6, "A:1"⟩]⟩ ∧
      Weights.Table.ofText (.ofString "w.txt") frayedLines =
        .error (.weightTable (.ofString "w.txt") 1 "missing ':' in \"noise\"") := by
  have same : Text.SameLines plainLines frayedLines := by
    rw [Text.sameLines_iff]
    decide +kernel
  obtain ⟨hlog, htable⟩ := same_lines_read_alike.1 plainLines frayedLines same
  refine ⟨same, ?_, ?_⟩
  · rw [← hlog]
    decide +kernel
  · have hplain : Weights.Table.ofText (.ofString "w.txt") plainLines =
        .error (.weightTable (.ofString "w.txt") 1 "missing ':' in \"noise\"") := by
      decide +kernel
    rcases htable (.ofString "w.txt") (.ofString "w.txt") with
      ⟨table, hread, -⟩ | ⟨number, details, hfault, hfault'⟩
    · rw [hplain] at hread
      cases hread
    · rw [hfault', ← hfault, hplain]

end SqlReplay
