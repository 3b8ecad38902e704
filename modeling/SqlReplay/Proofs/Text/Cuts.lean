import Mathlib.Data.List.TakeWhile
import SqlReplay.Text.Blank
import SqlReplay.Text.Lines
import SqlReplay.Text.Split

/-!
# Where texts are cut

Cutting a text where it was joined gives the parts back: at a separator that does not occur in the
part that is searched for it (`splitFirst?_append`, `splitLast?_append`) and at the end of a line
(`lines_flatMap_ended`, `lines_flatMap_newline`).  A separator is found in no other way
(`splitFirst?_eq_some_iff`, `splitLast?_eq_some_iff`).  Trimming leaves alone what has no blank at
either end (`trim_eq_self`).
-/

namespace SqlReplay.Text

/-! ## Separators -/

theorem splitFirst?_append {d : Char} {before : List Char} (h : d ∉ before) (after : List Char) :
    splitFirst? d (before ++ d :: after) = some (before, after) := by
  induction before with
  | nil => simp [splitFirst?]
  | cons c cs ih =>
    rw [List.mem_cons, not_or] at h
    rw [List.cons_append, splitFirst?, if_neg (Ne.symm h.1), ih h.2]
    rfl

theorem splitLast?_append {d : Char} {after : List Char} (h : d ∉ after) (before : List Char) :
    splitLast? d (before ++ d :: after) = some (before, after) := by
  have hreverse : (before ++ d :: after).reverse = after.reverse ++ d :: before.reverse := by
    simp
  have hnot : d ∉ after.reverse := by
    rw [List.mem_reverse]
    exact h
  have hsplit := splitFirst?_append hnot before.reverse
  rw [splitLast?, hreverse, hsplit]
  simp only [Option.map_some, List.reverse_reverse]

theorem splitFirst?_eq_some_iff {d : Char} {cs before after : List Char} :
    splitFirst? d cs = some (before, after) ↔ cs = before ++ d :: after ∧ d ∉ before := by
  constructor
  · intro h
    induction cs generalizing before with
    | nil => cases h
    | cons c cs ih =>
      rw [splitFirst?] at h
      by_cases hc : c = d
      · rw [if_pos hc] at h
        cases h
        exact ⟨by rw [hc, List.nil_append], List.not_mem_nil⟩
      · rw [if_neg hc, Option.map_eq_some_iff] at h
        obtain ⟨⟨front, back⟩, hsplit, heq⟩ := h
        cases heq
        obtain ⟨rfl, hnot⟩ := ih hsplit
        refine ⟨rfl, ?_⟩
        rw [List.mem_cons, not_or]
        exact ⟨fun e => hc e.symm, hnot⟩
  · rintro ⟨rfl, h⟩
    exact splitFirst?_append h after

theorem splitLast?_eq_some_iff {d : Char} {cs before after : List Char} :
    splitLast? d cs = some (before, after) ↔ cs = before ++ d :: after ∧ d ∉ after := by
  constructor
  · intro h
    rw [splitLast?, Option.map_eq_some_iff] at h
    obtain ⟨⟨back, front⟩, hsplit, heq⟩ := h
    cases heq
    obtain ⟨hreverse, hnot⟩ := splitFirst?_eq_some_iff.1 hsplit
    refine ⟨?_, by rwa [List.mem_reverse]⟩
    rw [← List.reverse_reverse cs, hreverse, List.reverse_append, List.reverse_cons,
      List.append_assoc, List.singleton_append]
  · rintro ⟨rfl, h⟩
    exact splitLast?_append h before

/-! ## Lines -/

theorem dropReturn_eq_self {line : List Char} (h : line.head? ≠ some '\r') :
    dropReturn line = line := by
  cases line with
  | nil => rfl
  | cons c cs =>
    have hc : c ≠ '\r' := fun e => h (congrArg some e)
    unfold dropReturn
    split
    · next heq =>
      cases heq
      exact absurd rfl hc
    · rfl

theorem dropReturn_suffix (line : List Char) : dropReturn line <:+ line := by
  unfold dropReturn
  split
  · exact List.suffix_cons _ _
  · exact List.suffix_rfl

theorem linesFrom_append_newline {cs : List Char} (h : '\n' ∉ cs) (line rest : List Char) :
    linesFrom line (cs ++ '\n' :: rest) =
      (dropReturn (cs.reverse ++ line)).reverse :: lines rest := by
  induction cs generalizing line with
  | nil => simp [linesFrom, lines]
  | cons c cs ih =>
    rw [List.mem_cons, not_or] at h
    rw [List.cons_append, linesFrom, if_neg (Ne.symm h.1), ih h.2, List.reverse_cons,
      List.append_assoc, List.singleton_append]

/-- A text made of lines is cut into these lines, one carriage return at the end of each aside. -/
theorem lines_flatMap_ended {α : Type} {line : α → List Char} {as : List α}
    (h : ∀ a ∈ as, '\n' ∉ line a) :
    lines (as.flatMap fun a => line a ++ ['\n']) =
      as.map fun a => (dropReturn (line a).reverse).reverse := by
  induction as with
  | nil => rfl
  | cons a as ih =>
    obtain ⟨ha, has⟩ := List.forall_mem_cons.1 h
    rw [List.flatMap_cons, List.append_assoc, List.singleton_append, lines,
      linesFrom_append_newline ha, List.append_nil, ih has, List.map_cons]

theorem lines_flatMap_newline {α : Type} {line : α → List Char} {as : List α}
    (h : ∀ a ∈ as, '\n' ∉ line a ∧ (line a).getLast? ≠ some '\r') :
    lines (as.flatMap fun a => line a ++ ['\n']) = as.map line := by
  rw [lines_flatMap_ended fun a ha => (h a ha).1]
  refine List.map_congr_left fun a ha => ?_
  have hlast : (line a).reverse.head? ≠ some '\r' := by
    rw [List.head?_reverse]
    exact (h a ha).2
  rw [dropReturn_eq_self hlast, List.reverse_reverse]

theorem not_mem_of_mem_linesFrom {line : List Char} {cs start : List Char}
    (hstart : '\n' ∉ start) (h : line ∈ linesFrom start cs) : '\n' ∉ line := by
  induction cs generalizing start with
  | nil =>
    rw [linesFrom] at h
    split at h
    · cases h
    · rw [List.mem_singleton.1 h, List.mem_reverse]
      exact hstart
  | cons c cs ih =>
    rw [linesFrom] at h
    split at h
    · rcases List.mem_cons.1 h with rfl | h
      · rw [List.mem_reverse]
        exact fun hmem => hstart ((dropReturn_suffix start).mem hmem)
      · exact ih List.not_mem_nil h
    · next hc =>
      refine ih ?_ h
      rw [List.mem_cons, not_or]
      exact ⟨Ne.symm hc, hstart⟩

/-- No line holds a line feed. -/
theorem not_mem_of_mem_lines {line cs : List Char} (h : line ∈ lines cs) : '\n' ∉ line :=
  not_mem_of_mem_linesFrom List.not_mem_nil h

/-! ## Blanks at the ends -/

theorem trimStart_eq_self {cs : List Char} (h : ∀ c, cs.head? = some c → isBlank c = false) :
    trimStart cs = cs := by
  cases cs with
  | nil => rfl
  | cons c cs => rw [trimStart, List.dropWhile_cons_of_neg (by simp [h c rfl])]

theorem trimEnd_eq_self {cs : List Char} (h : ∀ c, cs.getLast? = some c → isBlank c = false) :
    trimEnd cs = cs := by
  have hreverse : trimStart cs.reverse = cs.reverse := by
    apply trimStart_eq_self
    intro c hc
    rw [List.head?_reverse] at hc
    exact h c hc
  rw [trimEnd, ← trimStart, hreverse, List.reverse_reverse]

theorem trim_eq_self {cs : List Char} (hfirst : ∀ c, cs.head? = some c → isBlank c = false)
    (hlast : ∀ c, cs.getLast? = some c → isBlank c = false) : trim cs = cs := by
  rw [trim, trimStart_eq_self hfirst, trimEnd_eq_self hlast]

theorem trim_eq_nil_iff {cs : List Char} : trim cs = [] ↔ ∀ c ∈ cs, isBlank c = true := by
  constructor
  · intro h c hc
    rw [trim, trimEnd, List.reverse_eq_nil_iff, List.dropWhile_eq_nil_iff] at h
    rw [← List.takeWhile_append_dropWhile (p := isBlank) (l := cs), List.mem_append] at hc
    rcases hc with hc | hc
    · exact List.mem_takeWhile_imp hc
    · exact h c (List.mem_reverse.2 hc)
  · intro h
    have hstart : trimStart cs = [] := List.dropWhile_eq_nil_iff.2 h
    rw [trim, hstart]
    rfl

theorem not_isBlank_of_head?_trimStart {cs : List Char} {c : Char}
    (h : (trimStart cs).head? = some c) : isBlank c = false := by
  have hhead := List.head?_dropWhile_not isBlank cs
  rw [← trimStart, h] at hhead
  exact hhead

theorem trimEnd_prefix (cs : List Char) : trimEnd cs <+: cs := by
  have h : trimStart cs.reverse <:+ cs.reverse := List.dropWhile_suffix isBlank
  rw [← List.reverse_prefix, List.reverse_reverse] at h
  exact h

/-- What is left of a text once it is trimmed is a stretch of it. -/
theorem trim_infix (cs : List Char) : trim cs <:+: cs := by
  have hend : trim cs <+: trimStart cs := trimEnd_prefix (trimStart cs)
  have hstart : trimStart cs <:+ cs := List.dropWhile_suffix isBlank
  exact hend.isInfix.trans hstart.isInfix

theorem not_isBlank_of_getLast?_trim {cs : List Char} {c : Char}
    (h : (trim cs).getLast? = some c) : isBlank c = false := by
  rw [trim, trimEnd, List.getLast?_reverse] at h
  exact not_isBlank_of_head?_trimStart h

theorem trim_trim (cs : List Char) : trim (trim cs) = trim cs := by
  apply trim_eq_self
  · intro c hc
    obtain ⟨rest, hrest⟩ := trimEnd_prefix (trimStart cs)
    have hhead : (trimStart cs).head? = some c := by
      rw [← hrest, List.head?_append, ← trim, hc, Option.some_or]
    exact not_isBlank_of_head?_trimStart hhead
  · intro c hc
    exact not_isBlank_of_getLast?_trim hc

theorem trimmed_trimmed (s : String) : trimmed (trimmed s) = trimmed s := by
  rw [← String.toList_inj, toList_trimmed, toList_trimmed, trim_trim]

/-- The characters from the exclamation mark to the tilde are not blank. -/
theorem isBlank_of_visible {c : Char} (hlow : 33 ≤ c.toNat) (hhigh : c.toNat ≤ 126) :
    isBlank c = false := by
  rw [← Bool.not_eq_true]
  intro h
  simp [isBlank, blankRanges] at h
  omega

end SqlReplay.Text
