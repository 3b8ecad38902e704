import SqlReplay.Proofs.Log.Extraction

/-!
# Copies of logs

The statements of a log, written one a line, are a log of their own (`ReplayLog.written`).  If the
first of them opened the block, then the same statements are extracted from any text that has them
for its lines, now numbered by these lines (`LogFormat.parse_eq_copy`).  What carries this over is
that a statement is a trimmed line, so that cutting and trimming find it again, and that it is a
statement and opens the block, or does not, by itself and wherever it stands.
-/

namespace SqlReplay

namespace ReplayLog

/-- The texts of the statements. -/
def sqls (log : ReplayLog) : List (List Char) := log.statements.map fun s => s.sql.toList

/-- The statements written one a line. -/
def written (log : ReplayLog) : List Char := log.sqls.flatMap fun sql => sql ++ ['\n']

/-- The log of the same statements that stand one a line from the first line on. -/
def copy (log : ReplayLog) : ReplayLog :=
  ⟨none, some 1, LogFormat.placed (Text.numberFrom 1 log.sqls)⟩

/-- Whether the first statement stands on the line that opened the block. -/
def StartsAtOpening (log : ReplayLog) : Prop :=
  ∃ first rest, log.statements = first :: rest ∧ log.blockStart = some first.line

end ReplayLog

namespace LogFormat

/-! ## Statements as texts -/

theorem sqls_placed (ls : List (ℕ × List Char)) :
    (placed ls).map (fun s => s.sql.toList) = ls.map Prod.snd := by
  have hforget : ((Text.numberFrom 1 ls).map Prod.snd).map Prod.snd = ls.map Prod.snd :=
    congrArg (List.map Prod.snd) Text.map_snd_numberFrom
  rw [← hforget, placed, List.map_map, List.map_map]
  simp [Function.comp_def]

/-- Statements tell their places and their texts, whatever lines they stand on. -/
theorem told_placed (ls : List (ℕ × List Char)) :
    (placed ls).map (fun s => (s.position, s.sql)) =
      (Text.numberFrom 1 (ls.map Prod.snd)).map fun l => (l.1, String.ofList l.2) := by
  rw [placed, List.map_map, Text.numberFrom_map, List.map_map]
  rfl

variable {format : LogFormat} {text copy : List Char}

theorem sqls_parse (format : LogFormat) (text : List Char) :
    (format.parse text).sqls =
      ((format.block text).filter fun l => format.isStatement l.2).map Prod.snd :=
  sqls_placed _

/-- A statement is a line of the text without the blanks around it. -/
theorem mem_sqls {sql : List Char} (h : sql ∈ (format.parse text).sqls) :
    (∃ raw ∈ Text.lines text, Text.trim raw = sql) ∧ format.isStatement sql = true := by
  rw [sqls_parse, List.mem_map] at h
  obtain ⟨⟨number, sql⟩, hmem, rfl⟩ := h
  obtain ⟨hblock, hstatement⟩ := List.mem_filter.1 hmem
  rw [block_eq] at hblock
  obtain ⟨-, hline⟩ := Text.mem_numberFrom.1 ((List.dropWhile_sublist _).mem hblock)
  exact ⟨List.mem_map.1 (List.mem_of_getElem? hline), hstatement⟩

theorem trim_of_mem_sqls {sql : List Char} (h : sql ∈ (format.parse text).sqls) :
    Text.trim sql = sql := by
  obtain ⟨⟨raw, -, rfl⟩, -⟩ := mem_sqls h
  exact Text.trim_trim raw

/-- Writing the statements one a line and cutting the text into lines gives them back. -/
theorem lines_written (format : LogFormat) (text : List Char) :
    Text.lines (format.parse text).written = (format.parse text).sqls := by
  have hlines : Text.lines (format.parse text).written = (format.parse text).sqls.map id := by
    refine Text.lines_flatMap_newline fun sql hsql => ?_
    obtain ⟨⟨raw, hraw, rfl⟩, -⟩ := mem_sqls hsql
    constructor
    · exact fun hmem => Text.not_mem_of_mem_lines hraw ((Text.trim_infix raw).mem hmem)
    · intro hlast
      have hblank := Text.not_isBlank_of_getLast?_trim hlast
      exact absurd hblank (by decide)
  rw [hlines, List.map_id]

/-! ## The copy -/

theorem pairwise_block (format : LogFormat) (text : List Char) :
    (format.block text).Pairwise fun a b => a.1 < b.1 := by
  rw [block_eq]
  exact Text.pairwise_numberFrom.sublist (List.dropWhile_sublist _)

/-- The block begins with the line that opens it. -/
theorem opens_of_block_eq_cons {l : ℕ × List Char} {ls : List (ℕ × List Char)}
    (h : format.block text = l :: ls) : format.opens l.2 = true := by
  rw [block_eq] at h
  obtain ⟨-, hopens⟩ := mem_of_dropWhile_eq_cons h
  rwa [Bool.not_eq_false'] at hopens

/-- If the first statement stands on the line that opened the block, it is what opened it. -/
theorem opens_of_startsAtOpening (h : (format.parse text).StartsAtOpening) :
    ∃ first rest, (format.parse text).sqls = first :: rest ∧ format.opens first = true := by
  obtain ⟨first, rest, hstatements, hstart⟩ := h
  have hlines := congrArg (List.map LoggedStatement.line) hstatements
  rw [sqls_parse]
  simp only [parse] at hlines hstart
  rw [map_line_placed, List.map_cons] at hlines
  cases hcut : format.block text with
  | nil =>
    rw [hcut] at hstart
    cases hstart
  | cons l ls =>
    rw [hcut] at hlines hstart
    by_cases hl : format.isStatement l.2 = true
    · rw [List.filter_cons, if_pos hl, List.map_cons]
      exact ⟨l.2, _, rfl, opens_of_block_eq_cons hcut⟩
    · -- Otherwise the first statement comes after the line that opened the block.
      have hsorted := pairwise_block format text
      rw [hcut] at hsorted
      rw [List.filter_cons, if_neg hl] at hlines
      have hmem : first.line ∈ (ls.filter fun l => format.isStatement l.2).map Prod.fst := by
        rw [hlines]
        exact List.mem_cons_self
      obtain ⟨l', hl', hline⟩ := List.mem_map.1 hmem
      have hlater := (List.pairwise_cons.1 hsorted).1 l' (List.mem_filter.1 hl').1
      have hsame : l.1 = first.line := Option.some.inj hstart
      omega

/-- A text that has the statements for its lines is the log of these statements. -/
theorem parse_eq_copy (h : (format.parse text).StartsAtOpening)
    (hcopy : Text.lines copy = (format.parse text).sqls) :
    format.parse copy = (format.parse text).copy := by
  obtain ⟨first, rest, hsqls, hopens⟩ := opens_of_startsAtOpening h
  have htrim : (Text.lines copy).map Text.trim = (format.parse text).sqls := by
    rw [hcopy]
    exact (List.map_congr_left fun sql hsql => trim_of_mem_sqls hsql).trans (List.map_id _)
  have hblock : format.block copy = Text.numberFrom 1 (format.parse text).sqls := by
    rw [block_eq, htrim, hsqls, Text.numberFrom, List.dropWhile_cons_of_neg]
    simp [hopens]
  have hall : (format.block copy).filter (fun l => format.isStatement l.2) = format.block copy := by
    rw [List.filter_eq_self, hblock]
    rintro ⟨number, sql⟩ hmem
    obtain ⟨-, hsql⟩ := Text.mem_numberFrom.1 hmem
    exact (mem_sqls (List.mem_of_getElem? hsql)).2
  rw [parse, hall, hblock, ReplayLog.copy, hsqls]
  rfl

/-- The copy has the statements of the log at their places. -/
theorem told_copy (format : LogFormat) (text : List Char) :
    (format.parse text).copy.statements.map (fun s => (s.position, s.sql)) =
      (format.parse text).statements.map fun s => (s.position, s.sql) := by
  rw [ReplayLog.copy, told_placed, Text.map_snd_numberFrom, sqls_parse]
  exact (told_placed _).symm

end LogFormat

namespace ReplayLog

variable (log : ReplayLog)

theorem sqls_copy : log.copy.sqls = log.sqls := by
  rw [copy, sqls, LogFormat.sqls_placed, Text.map_snd_numberFrom]

theorem size_copy : log.copy.size = log.size := by
  have hlength := congrArg List.length log.sqls_copy
  rwa [sqls, List.length_map, sqls, List.length_map] at hlength

theorem map_position_copy :
    log.copy.statements.map LoggedStatement.position = List.range' 1 log.size := by
  rw [← log.size_copy]
  exact LogFormat.map_position_placed _

theorem map_line_copy : log.copy.statements.map LoggedStatement.line = List.range' 1 log.size := by
  rw [copy, LogFormat.map_line_placed, Text.map_fst_numberFrom, sqls, List.length_map]
  rfl

end ReplayLog

namespace LogFormat

/-! ## The usual markers -/

/-- A line that opens the block under the usual markers is neither blank nor a comment. -/
theorem isStatement_of_opens_default {line : List Char} (h : default.opens line = true) :
    default.isStatement line = true := by
  have hopening : defaultOpening.toList = 'C' :: "REATE TABLE".toList := by decide
  have hmarker : defaultMarker.toList = ['-', '-'] := by decide
  rw [opens, opening_default, hopening] at h
  cases line with
  | nil => cases h
  | cons c cs =>
    by_cases hc : c = '-'
    · subst hc
      have hupper : Text.upper ('-' :: cs) = '-' :: Text.upper cs := rfl
      rw [hupper, List.isPrefixOf] at h
      cases h
    · have hdash : ('-' == c) = false := beq_false_of_ne (Ne.symm hc)
      rw [isStatement, isComment, marker_default, hmarker, List.isPrefixOf, hdash]
      rfl

/-- Under the usual markers the line that opens the block is the first statement. -/
theorem startsAtOpening_default {text : List Char} (h : (default.parse text).blockStart ≠ none) :
    (default.parse text).StartsAtOpening := by
  simp only [parse] at h
  simp only [ReplayLog.StartsAtOpening, parse]
  cases hcut : default.block text with
  | nil =>
    rw [hcut] at h
    exact absurd rfl h
  | cons l ls =>
    have hstatement := isStatement_of_opens_default (opens_of_block_eq_cons hcut)
    rw [List.filter_cons, if_pos hstatement]
    exact ⟨_, _, rfl, rfl⟩

end LogFormat

end SqlReplay
