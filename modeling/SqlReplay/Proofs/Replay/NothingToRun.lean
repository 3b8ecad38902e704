import SqlReplay.Proofs.Config.Loading
import SqlReplay.Proofs.Log.Extraction
import SqlReplay.Proofs.Replay.Failing
import SqlReplay.Proofs.Replay.Started

/-!
# When there is nothing to run

A run reports that there is nothing to run if its log has no statement.  Settings that pass the
check could still hide every statement: a marker is checked as it is given, but the blanks around it
do not count when the log is read, and what begins with nothing is every line.  This happens only
for markers made of blanks, which settings that were loaded never have
(`validated_hides_only_by_blanks`).
-/

namespace SqlReplay

open Storage

namespace Text

/-- Whether a text is not empty, but made of blanks only. -/
def OnlyBlanks (s : String) : Prop := s ≠ "" ∧ ∀ c ∈ s.toList, isBlank c = true

/-- What is not empty and comes to nothing without the blanks around it is made of blanks. -/
theorem trim_eq_nil_iff_onlyBlanks {s : String} (h : s.isEmpty = false) :
    trim s.toList = [] ↔ OnlyBlanks s := by
  have hne : s ≠ "" := by simpa using h
  rw [trim_eq_nil_iff]
  exact ⟨fun hblank => ⟨hne, hblank⟩, fun hblank => hblank.2⟩

/-- What has lost the blanks around it is not made of blanks. -/
theorem not_onlyBlanks_trimmed (s : String) : ¬ OnlyBlanks (trimmed s) := by
  rintro ⟨hne, hblank⟩
  rw [toList_trimmed] at hblank
  have hnil : trim (trim s.toList) = [] := trim_eq_nil_iff.2 hblank
  rw [trim_trim, ← toList_trimmed] at hnil
  exact hne (String.toList_eq_nil_iff.1 hnil)

end Text

/-! ## Logs without statements -/

namespace LogFormat

variable {opening marker : String} {text : List Char} {i : ℕ}

/-- A blank line opens the block only if every line does. -/
theorem opensAt_iff_of_blank (h : Text.LineAt text i []) :
    OpensAt opening text i ↔ Text.trim opening.toList = [] := by
  constructor
  · rintro ⟨line, hline, hopens⟩
    obtain rfl := hline.unique h
    rw [Text.upper_nil, List.prefix_nil] at hopens
    by_contra hne
    exact Text.upper_ne_nil hne hopens
  · intro hnil
    refine ⟨[], h, ?_⟩
    rw [hnil]

/-- A line of the block that is not blank is left out only if it is a comment. -/
theorem notMem_map_line_iff {s : ℕ} {line : List Char}
    (hstart : ((ofMarkers opening marker).parse text).blockStart = some s) (hle : s ≤ i)
    (hline : Text.LineAt text i line) (hne : line ≠ []) :
    i ∉ ((ofMarkers opening marker).parse text).statements.map LoggedStatement.line ↔
      Text.trim marker.toList <+: line := by
  rw [mem_map_line_iff opening marker hstart]
  constructor
  · intro hnot
    by_contra hcomment
    exact hnot ⟨hle, line, hline, hne, hcomment⟩
  · rintro hcomment ⟨-, line', hline', -, hnot⟩
    obtain rfl := hline'.unique hline
    exact hnot hcomment

/-- A log has no statement exactly if all lines from the first that opens the block are blank or
comments. -/
theorem statements_eq_nil_iff :
    ((ofMarkers opening marker).parse text).statements = [] ↔
      ∀ s, IsLeast {i | OpensAt opening text i} s → ∀ i line, s ≤ i →
        Text.LineAt text i line → line ≠ [] → Text.trim marker.toList <+: line := by
  rw [← List.map_eq_nil_iff (f := LoggedStatement.line), List.eq_nil_iff_forall_not_mem]
  constructor
  · intro hnone s hs i line hle hline hne
    have hstart := (blockStart_eq_some_iff opening marker s).2 hs
    exact (notMem_map_line_iff hstart hle hline hne).1 (hnone i)
  · intro hall i hmem
    cases hstart : ((ofMarkers opening marker).parse text).blockStart with
    | none =>
      rw [statements_eq_nil opening marker hstart] at hmem
      cases hmem
    | some s =>
      obtain ⟨hle, line, hline, hne, hnot⟩ := (mem_map_line_iff opening marker hstart i).1 hmem
      have hleast := (blockStart_eq_some_iff opening marker s).1 hstart
      exact hnot (hall s hleast i line hle hline hne)

/-- Whether a file can be read and is a text. -/
def ReadsAs (disk : Disk) (path : Path) (text : List Char) : Prop :=
  ∃ content, disk.read path = .ok content ∧ Utf8.decode content.bytes = .ok text

theorem parseFile_eq_ok_iff {format : LogFormat} {disk : Disk} {path : Path} {log : ReplayLog} :
    format.parseFile disk path = .ok log ↔
      ∃ text, ReadsAs disk path text ∧ log = { format.parse text with source := some path } := by
  constructor
  · intro h
    unfold parseFile at h
    cases hread : disk.read path with
    | error fault =>
      rw [hread] at h
      cases h
    | ok content =>
      cases hdecode : Utf8.decode content.bytes with
      | error fault =>
        simp only [hread, hdecode] at h
        cases h
      | ok text =>
        simp only [hread, hdecode, Except.ok.injEq] at h
        exact ⟨text, ⟨content, hread, hdecode⟩, h.symm⟩
  · rintro ⟨text, ⟨content, hread, hdecode⟩, rfl⟩
    simp only [parseFile, hread, hdecode]

end LogFormat

/-! ## Runs that find nothing -/

namespace Replay

variable {c : Config} {disk : Disk}

theorem run_nothingToRun_iff :
    (∃ report, (run c disk).result = .ok report ∧ report.status = .nothingToRun) ↔
      ∃ text, LogFormat.ReadsAs disk c.replay.logPath text ∧
        (c.logFormat.parse text).statements = [] := by
  constructor
  · rintro ⟨report, hresult, hstatus⟩
    cases hlog : c.logFormat.parseFile disk c.replay.logPath with
    | error fault =>
      simp only [run, runOn, hlog] at hresult
      cases hresult
    | ok log =>
      obtain ⟨text, hreads, rfl⟩ := LogFormat.parseFile_eq_ok_iff.1 hlog
      refine ⟨text, hreads, ?_⟩
      by_contra hne
      have hcompleted := completed_of_statements hlog (by simpa [ReplayLog.isEmpty] using hne)
        hresult
      rw [hstatus] at hcompleted
      cases hcompleted
  · rintro ⟨text, hreads, hnone⟩
    have hlog : c.logFormat.parseFile disk c.replay.logPath = .ok _ :=
      LogFormat.parseFile_eq_ok_iff.2 ⟨text, hreads, rfl⟩
    refine ⟨.nothingToRun, ?_, rfl⟩
    rw [run, runOn_of_empty hlog (by simpa [ReplayLog.isEmpty] using hnone)]

/-- With settings that pass the check, a blank line opens the block only if the opening phrase is
made of blanks, and a line of the block that is not blank is left out only if it begins with the
comment marker, which is something unless the marker is made of blanks.  A run finds nothing to run
exactly if its log is a text in which all lines from the first that opens the block are blank or
begin with the marker.  Neither the phrase nor the marker of loaded settings is made of blanks. -/
theorem validated_hides_only_by_blanks (valid : c.validate = .ok ()) :
    (∀ text i, Text.LineAt text i [] →
      (LogFormat.OpensAt c.replay.opening text i ↔ Text.OnlyBlanks c.replay.opening)) ∧
    (∀ text s, (c.logFormat.parse text).blockStart = some s →
      IsLeast {i | LogFormat.OpensAt c.replay.opening text i} s ∧
      ∀ i line, s ≤ i → Text.LineAt text i line → line ≠ [] →
        (i ∉ (c.logFormat.parse text).statements.map LoggedStatement.line ↔
          Text.trim c.replay.marker.toList <+: line)) ∧
    (Text.trim c.replay.marker.toList = [] ↔ Text.OnlyBlanks c.replay.marker) ∧
    (∀ disk, (∃ report, (run c disk).result = .ok report ∧ report.status = .nothingToRun) ↔
      ∃ text, LogFormat.ReadsAs disk c.replay.logPath text ∧
        ∀ s, IsLeast {i | LogFormat.OpensAt c.replay.opening text i} s → ∀ i line, s ≤ i →
          Text.LineAt text i line → line ≠ [] → Text.trim c.replay.marker.toList <+: line) ∧
    ∀ env disk asked, Config.load env disk asked = .ok c →
      ¬ Text.OnlyBlanks c.replay.opening ∧ ¬ Text.OnlyBlanks c.replay.marker := by
  obtain ⟨-, -, hopening, hmarker, -⟩ := Config.validate_eq_ok valid
  refine ⟨?_, ?_, Text.trim_eq_nil_iff_onlyBlanks hmarker, ?_, ?_⟩
  · intro text i hblank
    rw [LogFormat.opensAt_iff_of_blank hblank, Text.trim_eq_nil_iff_onlyBlanks hopening]
  · intro text s hstart
    refine ⟨(LogFormat.blockStart_eq_some_iff _ _ s).1 hstart, ?_⟩
    intro i line hle hline hne
    exact LogFormat.notMem_map_line_iff hstart hle hline hne
  · intro disk
    rw [run_nothingToRun_iff]
    simp only [Config.logFormat, LogFormat.statements_eq_nil_iff]
  · intro env disk asked hload
    obtain ⟨base, given, -, -, rfl, -⟩ := Config.load_eq_ok hload
    constructor
    · exact Text.not_onlyBlanks_trimmed given.replay.opening
    · exact Text.not_onlyBlanks_trimmed given.replay.marker

/-- Settings with one option in the catalog, an opening phrase and a comment marker. -/
def marked (opening marker : String) : Config :=
  { dataConfig "database0" with
    replay := ⟨.ofString "database0.log", opening, marker⟩
    weights := ⟨.ofString "w.txt", 1, 9, none, ["a"]⟩ }

/-- With a blank for the opening phrase the block opens at a blank line, and of the two lines after
it only the comment is left out. -/
theorem validated_hides_only_by_blanks_opening :
    let text := "\n-- a\nb".toList
    (marked " " "--").validate = .ok () ∧ LogFormat.OpensAt " " text 1 ∧
      ((marked " " "--").logFormat.parse text).blockStart = some 1 ∧
      2 ∉ ((marked " " "--").logFormat.parse text).statements.map LoggedStatement.line ∧
      3 ∈ ((marked " " "--").logFormat.parse text).statements.map LoggedStatement.line := by
  intro text
  have valid : (marked " " "--").validate = .ok () := by decide +kernel
  obtain ⟨hblank, hblock, -⟩ := validated_hides_only_by_blanks valid
  have hfirst : Text.LineAt text 1 [] := ⟨by decide, [], by decide, by decide⟩
  have hsecond : Text.LineAt text 2 "-- a".toList := ⟨by decide, _, rfl, by decide⟩
  have hthird : Text.LineAt text 3 "b".toList := ⟨by decide, _, rfl, by decide⟩
  have hstart : ((marked " " "--").logFormat.parse text).blockStart = some 1 := by decide +kernel
  obtain ⟨-, hstatements⟩ := hblock text 1 hstart
  have hblanks : Text.OnlyBlanks " " := by
    refine ⟨by decide, fun c hc => ?_⟩
    obtain rfl : c = ' ' := by simpa using hc
    decide
  have hcomment := hstatements 2 _ (by decide) hsecond (by simp)
  have hstatement := hstatements 3 _ (by decide) hthird (by simp)
  refine ⟨valid, (hblank text 1 hfirst).2 hblanks, hstart, ?_, ?_⟩
  · apply hcomment.2
    decide +kernel
  · by_contra hnot
    have hprefix := hstatement.1 hnot
    revert hprefix
    decide +kernel

/-- Settings whose comment marker is a blank pass the check, and a log that is one statement has
nothing to run with them. -/
theorem blank_marker_hides_statement :
    let c := marked "CREATE TABLE" " "
    c.validate = .ok () ∧ LogFormat.OpensAt c.replay.opening "CREATE TABLE t (a)".toList 1 ∧
      ¬ c.replay.marker.toList <+: "CREATE TABLE t (a)".toList ∧
      (run c (logDisk "CREATE TABLE t (a)")).result = .ok .nothingToRun := by
  refine ⟨by decide +kernel, ?_, by decide, by decide +kernel⟩
  exact ⟨"CREATE TABLE t (a)".toList, ⟨by decide, _, rfl, by decide⟩, by decide⟩

end Replay

end SqlReplay
