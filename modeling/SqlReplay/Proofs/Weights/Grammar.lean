import Mathlib.Data.List.Forall2
import Mathlib.Tactic.SplitIfs
import SqlReplay.Proofs.Text.Cuts
import SqlReplay.Proofs.Text.Numeral
import SqlReplay.Weights.Store

/-!
# The grammar of weight tables

A text is a weight table if each of its lines, without the blanks around it, is empty or has the
form `first,second:weight`, with two different names and a 32-bit number (`Entry.SpelledBy`).
Cutting at the last colon and then at the first comma finds this form wherever there is one, as
neither a name nor a number holds a colon or a comma (`Entry.ofRecord_eq_ok_iff`).  Reading stops at
the first line that is of no such form, so only that line and its number tell in the fault
(`Table.ofText_blames_first`).
-/

namespace SqlReplay.Weights

/-! ## Names -/

/-- Whether a character is an ASCII letter or an underscore. -/
def IsNameLetter (c : Char) : Prop := 'A' ≤ c ∧ c ≤ 'Z' ∨ 'a' ≤ c ∧ c ≤ 'z' ∨ c = '_'

/-- Whether a text has the form `[A-Za-z_][A-Za-z0-9_]*`. -/
def IsName (cs : List Char) : Prop :=
  ∃ first rest, cs = first :: rest ∧ IsNameLetter first ∧
    ∀ c ∈ rest, IsNameLetter c ∨ '0' ≤ c ∧ c ≤ '9'

theorem isNameStart_iff (c : Char) : isNameStart c = true ↔ IsNameLetter c := by
  have hclass : isNameStart c = (decide (c.val ≥ 65 ∧ c.val ≤ 90) ||
      (decide (c.val ≥ 97) && decide (c.val ≤ 122)) || decide (c = '_')) := rfl
  rw [hclass, Bool.or_eq_true, Bool.or_eq_true, Bool.and_eq_true, decide_eq_true_eq,
    decide_eq_true_eq, decide_eq_true_eq, decide_eq_true_eq, or_assoc]
  exact Iff.rfl

theorem isNameRest_iff (c : Char) :
    isNameRest c = true ↔ IsNameLetter c ∨ '0' ≤ c ∧ c ≤ '9' := by
  rw [isNameRest, Bool.or_eq_true, isNameStart_iff, Char.isDigit, Bool.and_eq_true,
    decide_eq_true_eq, decide_eq_true_eq]
  exact Iff.rfl

theorem isOptionName_iff (cs : List Char) : isOptionName cs = true ↔ IsName cs := by
  cases cs with
  | nil =>
    constructor
    · intro h
      cases h
    · rintro ⟨first, rest, h, -⟩
      cases h
  | cons c cs =>
    rw [isOptionName, Bool.and_eq_true, List.all_eq_true, isNameStart_iff]
    constructor
    · rintro ⟨hfirst, hrest⟩
      exact ⟨c, cs, rfl, hfirst, fun c' hc' => (isNameRest_iff c').1 (hrest c' hc')⟩
    · rintro ⟨first, rest, heq, hfirst, hrest⟩
      cases heq
      exact ⟨hfirst, fun c' hc' => (isNameRest_iff c').2 (hrest c' hc')⟩

theorem isNameRest_bounds {c : Char} (h : isNameRest c = true) :
    48 ≤ c.toNat ∧ c.toNat ≤ 57 ∨ 65 ≤ c.toNat ∧ c.toNat ≤ 122 := by
  rcases (isNameRest_iff c).1 h with (⟨hlow, hhigh⟩ | ⟨hlow, hhigh⟩ | rfl) | hdigit
  · exact Or.inr ⟨hlow, Nat.le_trans hhigh (by decide)⟩
  · exact Or.inr ⟨Nat.le_trans (by decide) hlow, hhigh⟩
  · decide
  · exact Or.inl hdigit

theorem isNameRest_of_mem {cs : List Char} (h : isOptionName cs = true) {c : Char} (hc : c ∈ cs) :
    isNameRest c = true := by
  cases cs with
  | nil => cases hc
  | cons first rest =>
    rw [isOptionName, Bool.and_eq_true, List.all_eq_true] at h
    rcases List.mem_cons.1 hc with rfl | hc
    · rw [isNameRest, h.1, Bool.true_or]
    · exact h.2 c hc

theorem not_mem_of_isOptionName {cs : List Char} (h : isOptionName cs = true) {d : Char}
    (hd : isNameRest d = false) : d ∉ cs := by
  intro hmem
  rw [isNameRest_of_mem h hmem] at hd
  cases hd

/-! ## Records -/

/-- Whether a text has the form `first,second:weight` of a record of the entry. -/
def Entry.SpelledBy (e : Entry) (line : List Char) : Prop :=
  ∃ weight, line = e.pair.first.toList ++ ',' :: (e.pair.second.toList ++ ':' :: weight) ∧
    IsName e.pair.first.toList ∧ IsName e.pair.second.toList ∧ e.pair.first ≠ e.pair.second ∧
    Text.Denotes weight e.weight.toNat

namespace Entry

variable {e : Entry} {line : List Char}

theorem SpelledBy.ne_nil (h : e.SpelledBy line) : line ≠ [] := by
  obtain ⟨weight, rfl, -⟩ := h
  simp

/-- A line is read as an entry if and only if it is a record of it. -/
theorem ofRecord_eq_ok_iff : ofRecord line = .ok e ↔ e.SpelledBy line := by
  constructor
  · intro h
    unfold ofRecord at h
    split at h
    · cases h
    · next names weight hcolon =>
      split at h
      · cases h
      · next first second hcomma =>
        split_ifs at h with hfirst hsecond hdifferent
        split at h
        · cases h
        · next w hweight =>
          cases h
          obtain ⟨rfl, -⟩ := Text.splitLast?_eq_some_iff.1 hcolon
          obtain ⟨rfl, -⟩ := Text.splitFirst?_eq_some_iff.1 hcomma
          rw [Bool.not_eq_true, Bool.not_eq_false'] at hfirst hsecond
          refine ⟨weight, ?_, ?_, ?_, ?_, Text.readUInt32_eq_ok_iff.1 hweight⟩
          · simp only [String.toList_ofList, List.append_assoc, List.cons_append]
          · rw [String.toList_ofList]
            exact (isOptionName_iff first).1 hfirst
          · rw [String.toList_ofList]
            exact (isOptionName_iff second).1 hsecond
          · intro heq
            exact hdifferent (String.ofList_injective heq)
  · rintro ⟨weight, rfl, hfirst, hsecond, hdifferent, hweight⟩
    rw [← isOptionName_iff] at hfirst hsecond
    have hnames : e.pair.first.toList ≠ e.pair.second.toList := by
      intro heq
      exact hdifferent (String.toList_inj.1 heq)
    have hcolon : ':' ∉ weight := by
      intro hmem
      rcases hweight.mem hmem with heq | hdigit
      · exact absurd heq (by decide)
      · exact absurd hdigit (by decide)
    have hlast := Text.splitLast?_append hcolon
      (e.pair.first.toList ++ ',' :: e.pair.second.toList)
    rw [List.append_assoc, List.cons_append] at hlast
    have hcomma := Text.splitFirst?_append
      (not_mem_of_isOptionName hfirst (by decide : isNameRest ',' = false)) e.pair.second.toList
    simp only [ofRecord, hlast, hcomma, hfirst, hsecond, hnames,
      Text.readUInt32_eq_ok_iff.2 hweight, Bool.not_true, Bool.false_eq_true, if_false,
      String.ofList_toList]

end Entry

/-! ## Lines -/

/-- Whether a line, without the blanks around it, is empty or a record. -/
def IsTableLine (line : List Char) : Prop :=
  Text.trim line = [] ∨ ∃ e : Entry, e.SpelledBy (Text.trim line)

/-- The lines that are not empty without the blanks around them. -/
def filledLines (lines : List (List Char)) : List (List Char) :=
  (lines.map Text.trim).filter fun line => !line.isEmpty

section Lines

variable {line : List Char} {lines : List (List Char)}

theorem filledLines_cons_of_blank (h : Text.trim line = []) :
    filledLines (line :: lines) = filledLines lines := by
  simp [filledLines, h]

theorem filledLines_cons (h : Text.trim line ≠ []) :
    filledLines (line :: lines) = Text.trim line :: filledLines lines := by
  simp [filledLines, h]

theorem mem_filledLines (hmem : line ∈ lines) (h : Text.trim line ≠ []) :
    Text.trim line ∈ filledLines lines := by
  rw [filledLines, List.mem_filter]
  exact ⟨List.mem_map_of_mem hmem, by simp [h]⟩

end Lines

/-! What reading makes of the first line: it skips a blank one, takes the entry of a record, and
stops at any other. -/

section Reading

variable {line : List Char} {e : Entry}

theorem readRecords_blank (h : Text.trim line = []) (number : ℕ) (rest : List (ℕ × List Char)) :
    readRecords ((number, line) :: rest) = readRecords rest := by
  simp only [readRecords, h, List.isEmpty_nil, if_true]

theorem readRecords_record (h : e.SpelledBy (Text.trim line)) (number : ℕ)
    (rest : List (ℕ × List Char)) :
    readRecords ((number, line) :: rest) = (readRecords rest).map (e :: ·) := by
  have hfull : ¬ (Text.trim line).isEmpty = true :=
    fun hempty => h.ne_nil (List.isEmpty_iff.1 hempty)
  simp only [readRecords, if_neg hfull, Entry.ofRecord_eq_ok_iff.2 h]

theorem readRecords_other (h : ¬ IsTableLine line) :
    ∃ cause, Entry.ofRecord (Text.trim line) = .error cause ∧
      ∀ number rest, readRecords ((number, line) :: rest) = .error ⟨number, cause⟩ := by
  rw [IsTableLine, not_or] at h
  have hfull : ¬ (Text.trim line).isEmpty = true := fun hempty => h.1 (List.isEmpty_iff.1 hempty)
  cases hread : Entry.ofRecord (Text.trim line) with
  | ok e => exact absurd ⟨e, Entry.ofRecord_eq_ok_iff.1 hread⟩ h.2
  | error cause =>
    refine ⟨cause, rfl, fun number rest => ?_⟩
    simp only [readRecords, if_neg hfull, hread]

variable {lines : List (List Char)} {start : ℕ}

theorem readRecords_eq_ok_iff {entries : List Entry} :
    readRecords (Text.numberFrom start lines) = .ok entries ↔
      List.Forall₂ Entry.SpelledBy entries (filledLines lines) := by
  induction lines generalizing start entries with
  | nil =>
    simp only [Text.numberFrom, readRecords, filledLines, List.map_nil, List.filter_nil,
      List.forall₂_nil_right_iff, Except.ok.injEq]
    exact eq_comm
  | cons line rest ih =>
    rw [Text.numberFrom]
    by_cases hline : IsTableLine line
    · rcases hline with hblank | ⟨e, he⟩
      · rw [readRecords_blank hblank, filledLines_cons_of_blank hblank]
        exact ih
      · rw [readRecords_record he, filledLines_cons he.ne_nil, List.forall₂_cons_right_iff]
        constructor
        · intro h
          cases hrest : readRecords (Text.numberFrom (start + 1) rest) with
          | error fault =>
            rw [hrest] at h
            cases h
          | ok tail =>
            rw [hrest] at h
            cases h
            exact ⟨e, tail, he, ih.1 hrest, rfl⟩
        · rintro ⟨e', tail, he', htail, rfl⟩
          have hread := Entry.ofRecord_eq_ok_iff.2 he
          have hsame : e = e' := Except.ok.inj (hread.symm.trans (Entry.ofRecord_eq_ok_iff.2 he'))
          rw [ih.2 htail, hsame, Except.map]
    · obtain ⟨cause, hcause, hread⟩ := readRecords_other hline
      rw [IsTableLine, not_or] at hline
      rw [hread, filledLines_cons hline.1, List.forall₂_cons_right_iff]
      constructor
      · intro h
        cases h
      · rintro ⟨e, tail, he, -, -⟩
        exact absurd ⟨e, he⟩ hline.2

/-- Reading fails at the first line that is neither blank nor a record, for what is wrong there. -/
theorem readRecords_eq_error_iff {fault : LineFault} :
    readRecords (Text.numberFrom start lines) = .error fault ↔
      ∃ before bad after, lines = before ++ bad :: after ∧ (∀ line ∈ before, IsTableLine line) ∧
        ¬ IsTableLine bad ∧ fault.line = start + before.length ∧
        Entry.ofRecord (Text.trim bad) = .error fault.cause := by
  induction lines generalizing start with
  | nil =>
    constructor
    · intro h
      cases h
    · rintro ⟨before, bad, after, h, -⟩
      cases before <;> cases h
  | cons line rest ih =>
    rw [Text.numberFrom]
    by_cases hline : IsTableLine line
    · have hskip : readRecords ((start, line) :: Text.numberFrom (start + 1) rest) = .error fault ↔
          readRecords (Text.numberFrom (start + 1) rest) = .error fault := by
        rcases hline with hblank | ⟨e, he⟩
        · rw [readRecords_blank hblank]
        · rw [readRecords_record he]
          cases readRecords (Text.numberFrom (start + 1) rest) <;> simp [Except.map]
      rw [hskip, ih]
      constructor
      · rintro ⟨before, bad, after, rfl, hbefore, hbad, hnumber, hcause⟩
        refine ⟨line :: before, bad, after, rfl, ?_, hbad, ?_, hcause⟩
        · intro l hl
          rcases List.mem_cons.1 hl with rfl | hl
          · exact hline
          · exact hbefore l hl
        · rw [hnumber, List.length_cons]
          omega
      · rintro ⟨before, bad, after, heq, hbefore, hbad, hnumber, hcause⟩
        cases before with
        | nil =>
          cases heq
          exact absurd hline hbad
        | cons first before =>
          cases heq
          refine ⟨before, bad, after, rfl, ?_, hbad, ?_, hcause⟩
          · exact fun l hl => hbefore l (List.mem_cons_of_mem _ hl)
          · rw [hnumber, List.length_cons]
            omega
    · obtain ⟨cause, hcause, hread⟩ := readRecords_other hline
      rw [hread]
      constructor
      · intro h
        cases h
        exact ⟨[], line, rest, rfl, nofun, hline, rfl, hcause⟩
      · rintro ⟨before, bad, after, heq, hbefore, -, hnumber, hcause'⟩
        cases before with
        | nil =>
          cases heq
          obtain ⟨number, cause'⟩ := fault
          obtain rfl : number = start := hnumber
          rw [Except.error.inj (hcause.symm.trans hcause')]
        | cons first before =>
          cases heq
          exact absurd (hbefore line List.mem_cons_self) hline

end Reading

/-! ## Tables -/

theorem exists_of_forall₂ {α β : Type} {R : α → β → Prop} {as : List α} {bs : List β}
    (h : List.Forall₂ R as bs) {b : β} (hb : b ∈ bs) : ∃ a, R a b := by
  induction h with
  | nil => cases hb
  | cons hr _ ih =>
    rcases List.mem_cons.1 hb with rfl | hb
    · exact ⟨_, hr⟩
    · exact ih hb

namespace Table

theorem parse_eq_ok_iff {text : List Char} {table : Table} :
    parse text = .ok table ↔ readRecords (Text.numberedLines text) = .ok table.entries := by
  obtain ⟨entries⟩ := table
  rw [parse]
  cases readRecords (Text.numberedLines text) <;> simp [Except.map]

section Text

variable (origin : Storage.Path) (text : List Char)

theorem ofText_eq_ok_iff (table : Table) :
    ofText origin text = .ok table ↔ parse text = .ok table := by
  rw [ofText]
  cases parse text with
  | error fault => simp [Except.mapError]
  | ok table' => simp [Except.mapError]

theorem ofText_eq_error_iff (error : Error) :
    ofText origin text = .error error ↔ ∃ fault,
      readRecords (Text.numberedLines text) = .error fault ∧
        error = .weightTable origin fault.line fault.cause.message := by
  rw [ofText, parse]
  cases readRecords (Text.numberedLines text) with
  | error fault => simp [Except.map, Except.mapError, eq_comm]
  | ok entries => simp [Except.map, Except.mapError]

/-- A text is read as a table if and only if each of its lines, without the blanks around it, is
empty or a record, and the entries are then those of the records in order.  Otherwise the first line
that is neither is blamed by its number, whatever comes after it. -/
theorem ofText_blames_first :
    ((∃ table, ofText origin text = .ok table) ↔ ∀ line ∈ Text.lines text, IsTableLine line) ∧
    (∀ table, ofText origin text = .ok table ↔
      List.Forall₂ Entry.SpelledBy table.entries (filledLines (Text.lines text))) ∧
    ∀ error, ofText origin text = .error error →
      ∃ before bad after details, Text.lines text = before ++ bad :: after ∧
        (∀ line ∈ before, IsTableLine line) ∧ ¬ IsTableLine bad ∧
        error = .weightTable origin (before.length + 1) details ∧
        ∀ other after', Text.lines other = before ++ bad :: after' →
          ofText origin other = .error error := by
  have hok : ∀ table, ofText origin text = .ok table ↔
      List.Forall₂ Entry.SpelledBy table.entries (filledLines (Text.lines text)) := by
    intro table
    rw [ofText_eq_ok_iff, parse_eq_ok_iff, Text.numberedLines, readRecords_eq_ok_iff]
  refine ⟨⟨?_, ?_⟩, hok, ?_⟩
  · rintro ⟨table, htable⟩ line hline
    by_cases hblank : Text.trim line = []
    · exact Or.inl hblank
    · have hspelled := (hok table).1 htable
      exact Or.inr (exists_of_forall₂ hspelled (mem_filledLines hline hblank))
  · intro hlines
    cases hread : ofText origin text with
    | ok table => exact ⟨table, rfl⟩
    | error error =>
      obtain ⟨fault, hfault, -⟩ := (ofText_eq_error_iff origin text error).1 hread
      obtain ⟨before, bad, after, heq, -, hbad, -⟩ := readRecords_eq_error_iff.1 hfault
      have hmem : bad ∈ Text.lines text := by
        rw [heq]
        exact List.mem_append_right before List.mem_cons_self
      exact absurd (hlines bad hmem) hbad
  · intro error hread
    obtain ⟨fault, hfault, rfl⟩ := (ofText_eq_error_iff origin text error).1 hread
    obtain ⟨before, bad, after, heq, hbefore, hbad, hnumber, hcause⟩ :=
      readRecords_eq_error_iff.1 hfault
    refine ⟨before, bad, after, fault.cause.message, heq, hbefore, hbad, ?_, ?_⟩
    · rw [hnumber, Nat.add_comm]
    · intro other after' hother
      refine (ofText_eq_error_iff origin other _).2 ⟨fault, ?_, rfl⟩
      exact readRecords_eq_error_iff.2
        ⟨before, bad, after', hother, hbefore, hbad, hnumber, hcause⟩

example : ofText (.ofString "w.txt") "a,b:1\n\n b,b:+2\nc,d".toList =
    .error (.weightTable (.ofString "w.txt") 3 "self-pair \"b\"") := by
  decide +kernel

end Text

end Table

end SqlReplay.Weights
