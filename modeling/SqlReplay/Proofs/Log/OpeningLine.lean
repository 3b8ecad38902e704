import SqlReplay.Proofs.Log.Extraction
import SqlReplay.Proofs.Text.LetterCase

/-!
# The line that opens a block

Lines are compared with the opening phrase in upper case, which other characters than letters of
ASCII have too.  Under the usual markers these make no difference: the block opens at the first line
that begins with the phrase but for the case of letters of ASCII, and a log in which the case of
such letters is changed has its block and its statements at the same lines
(`default_opens_in_ascii`).
-/

namespace SqlReplay.LogFormat

/-! ## Logs in capitals -/

section Capitals

variable {format : LogFormat}

theorem opens_map_toUpper (h : Text.IsPlain format.opening) (line : List Char) :
    format.opens (line.map Char.toUpper) = format.opens line := by
  rw [Bool.eq_iff_iff, opens, List.isPrefixOf_iff_prefix, opens, List.isPrefixOf_iff_prefix,
    Text.prefix_upper_iff h, Text.prefix_upper_iff h, List.map_map]
  have hupper : Char.toUpper ∘ Char.toUpper = Char.toUpper := funext Text.toUpper_toUpper
  rw [hupper]

theorem isStatement_map_toUpper (h : ∀ d ∈ format.marker, d.toNat < 65) (line : List Char) :
    format.isStatement (line.map Char.toUpper) = format.isStatement line := by
  have hcomment : format.isComment (line.map Char.toUpper) = format.isComment line := by
    rw [Bool.eq_iff_iff, isComment, List.isPrefixOf_iff_prefix, isComment,
      List.isPrefixOf_iff_prefix, Text.prefix_map_toUpper_iff h]
  rw [isStatement, isStatement, List.isEmpty_map, hcomment]

theorem block_map_toUpper (h : Text.IsPlain format.opening) (text : List Char) :
    format.block (text.map Char.toUpper) =
      (format.block text).map fun l => (l.1, l.2.map Char.toUpper) := by
  have htrim : (Text.lines (text.map Char.toUpper)).map Text.trim =
      ((Text.lines text).map Text.trim).map (List.map Char.toUpper) := by
    rw [Text.lines_map_toUpper, List.map_map, List.map_map]
    exact List.map_congr_left fun line _ => Text.trim_map_toUpper line
  rw [block_eq, htrim, Text.numberFrom_map, List.dropWhile_map, block_eq]
  simp only [Function.comp_def, opens_map_toUpper h]

/-- The places and the lines of statements do not depend on the case of letters. -/
theorem parse_map_toUpper (hopening : Text.IsPlain format.opening)
    (hmarker : ∀ d ∈ format.marker, d.toNat < 65) (text : List Char) :
    (format.parse (text.map Char.toUpper)).blockStart = (format.parse text).blockStart ∧
      (format.parse (text.map Char.toUpper)).statements.map (fun s => (s.position, s.line)) =
        (format.parse text).statements.map fun s => (s.position, s.line) := by
  have hfound (ls : List (ℕ × List Char)) : (placed ls).map (fun s => (s.position, s.line)) =
      Text.numberFrom 1 (ls.map Prod.fst) := by
    rw [placed, List.map_map, Text.numberFrom_map]
    rfl
  simp only [parse, block_map_toUpper hopening, hfound, List.filter_map, List.map_map]
  simp only [Function.comp_def, isStatement_map_toUpper hmarker, List.head?_map, Option.map_map,
    and_self]

end Capitals

/-! ## The usual markers -/

theorem isPlain_opening_default : Text.IsPlain default.opening := by decide +kernel

/-- A line opens the block if its first characters are the phrase, the case of letters of ASCII
aside. -/
theorem opens_default_iff (line : List Char) :
    default.opens line = true ↔ (line.take 12).map Char.toUpper = "CREATE TABLE".toList := by
  rw [opens, List.isPrefixOf_iff_prefix, Text.prefix_upper_iff isPlain_opening_default,
    List.prefix_iff_eq_take, opening_default, List.map_take, eq_comm]
  rfl

theorem opensAt_default_iff (text : List Char) (i : ℕ) :
    OpensAt defaultOpening text i ↔
      ∃ line, Text.LineAt text i line ∧
        (line.take 12).map Char.toUpper = "CREATE TABLE".toList := by
  simp only [OpensAt, ← opens_iff defaultOpening defaultMarker]
  simp only [← opens_default_iff]
  rfl

/-- Under the usual markers the block opens at the first line that begins with the phrase but for
the case of letters of ASCII.  A line with any other character among its first twelve does not open
it, whatever its upper case is; and with the case of letters of ASCII changed anywhere, the block
and its statements are where they were. -/
theorem default_opens_in_ascii (text : List Char) :
    let log := default.parse text
    (∀ s, log.blockStart = some s ↔
      IsLeast {i | ∃ line, Text.LineAt text i line ∧
        (line.take 12).map Char.toUpper = "CREATE TABLE".toList} s) ∧
    (log.blockStart = none ↔ ∀ i line, Text.LineAt text i line →
      (line.take 12).map Char.toUpper ≠ "CREATE TABLE".toList) ∧
    (∀ i line, Text.LineAt text i line → (∃ c ∈ line.take 12, 128 ≤ c.toNat) →
      ¬ OpensAt defaultOpening text i) ∧
    ∀ text', text'.map Char.toUpper = text.map Char.toUpper →
      (default.parse text').blockStart = log.blockStart ∧
      (default.parse text').statements.map (fun s => (s.position, s.line)) =
        log.statements.map fun s => (s.position, s.line) := by
  intro log
  refine ⟨fun s => ?_, ?_, ?_, ?_⟩
  · have hstart : log.blockStart = some s ↔ IsLeast {i | OpensAt defaultOpening text i} s :=
      blockStart_eq_some_iff defaultOpening defaultMarker s
    simpa only [opensAt_default_iff] using hstart
  · have hstart : log.blockStart = none ↔ ∀ i, ¬ OpensAt defaultOpening text i :=
      blockStart_eq_none_iff defaultOpening defaultMarker
    simpa only [opensAt_default_iff, not_exists, not_and] using hstart
  · rintro i line hline ⟨c, hc, hforeign⟩ hopens
    obtain ⟨line', hline', hphrase⟩ := (opensAt_default_iff text i).1 hopens
    obtain rfl := hline'.unique hline
    have hupper : c.toUpper ∈ "CREATE TABLE".toList := by
      rw [← hphrase]
      exact List.mem_map_of_mem hc
    have hascii : ∀ d ∈ "CREATE TABLE".toList, d.toNat < 128 := by simp
    have hlow := hascii _ hupper
    rw [Text.toUpper_eq_self hforeign] at hlow
    omega
  · intro text' hsame
    have hmarker : ∀ d ∈ default.marker, d.toNat < 65 := by
      rw [marker_default]
      simp [defaultMarker]
    obtain ⟨hstart, hlines⟩ := parse_map_toUpper isPlain_opening_default hmarker text
    obtain ⟨hstart', hlines'⟩ := parse_map_toUpper isPlain_opening_default hmarker text'
    rw [hsame] at hstart' hlines'
    exact ⟨hstart'.symm.trans hstart, hlines'.symm.trans hlines⟩

end SqlReplay.LogFormat
