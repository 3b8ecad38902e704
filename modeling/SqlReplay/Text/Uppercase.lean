import SqlReplay.Text.CaseTable

/-!
# Upper-casing

Every character is mapped by itself and without regard to language, so a text may grow: `ß` becomes
`SS`.
-/

namespace SqlReplay.Text

/-- The upper case of one character. -/
def upperChar (c : Char) : List Char :=
  if c.toNat < 0x80 then [c.toUpper]
  else match caseExpansions.lookup c.toNat with
    | some ns => ns.map Char.ofNat
    | none => match caseRuns.find? (·.covers c.toNat) with
      | some r => [Char.ofNat (r.shift c.toNat)]
      | none => [c]

/-- The upper case of a text. -/
def upper (cs : List Char) : List Char := cs.flatMap upperChar

@[simp] theorem upper_nil : upper [] = [] := rfl

theorem caseExpansions_ne_nil : ∀ e ∈ caseExpansions, e.2 ≠ [] := by decide

theorem upperChar_ne_nil (c : Char) : upperChar c ≠ [] := by
  unfold upperChar
  split
  · simp
  · split
    · next ns hlookup =>
      obtain ⟨before, after, hsplit, -⟩ := List.lookup_eq_some_iff.1 hlookup
      have hmem : (c.toNat, ns) ∈ caseExpansions := by simp [hsplit]
      simpa using caseExpansions_ne_nil _ hmem
    · split <;> simp

/-- Only the empty text has nothing as its upper case. -/
theorem upper_ne_nil {cs : List Char} (h : cs ≠ []) : upper cs ≠ [] := by
  cases cs with
  | nil => exact absurd rfl h
  | cons c cs => simp [upper, upperChar_ne_nil]

end SqlReplay.Text
