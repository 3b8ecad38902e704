import SqlReplay.Proofs.Weights.Grammar

/-!
# Reading what was written

Names stand in a record unescaped, so a table can be read back if and only if each of its entries
names two different options by option names, and every table that was read is of this kind
(`Table.ofText_render`).  A record that was written holds visible characters only, of which its last
colon and its first comma are the separators, hence no cut and no trimming falls into a name.
-/

namespace SqlReplay.Weights

/-- Whether an entry names two different options, both by option names. -/
structure Entry.Named (e : Entry) : Prop where
  first : isOptionName e.pair.first.toList = true
  second : isOptionName e.pair.second.toList = true
  different : e.pair.first ≠ e.pair.second

/-! ## Characters of a record -/

namespace Entry

variable {e : Entry}

theorem Named.visible (h : e.Named) {c : Char} (hc : c ∈ e.record) :
    33 ≤ c.toNat ∧ c.toNat ≤ 126 := by
  have hname : ∀ {cs : List Char}, isOptionName cs = true → c ∈ cs →
      33 ≤ c.toNat ∧ c.toNat ≤ 126 := by
    intro cs hcs hmem
    have hbounds := isNameRest_bounds (isNameRest_of_mem hcs hmem)
    omega
  simp only [record, List.mem_append, List.mem_cons] at hc
  rcases hc with hc | rfl | hc | rfl | hc
  · exact hname h.first hc
  · decide
  · exact hname h.second hc
  · decide
  · have hbounds := Text.isDigit_bounds (Text.isDigit_of_mem_repr hc)
    omega

theorem Named.not_mem_record (h : e.Named) {c : Char} (hc : c.toNat < 33) : c ∉ e.record := by
  intro hmem
  have hvisible := h.visible hmem
  omega

theorem Named.trim_record (h : e.Named) : Text.trim e.record = e.record := by
  have hblank : ∀ c ∈ e.record, Text.isBlank c = false := by
    intro c hc
    have hvisible := h.visible hc
    exact Text.isBlank_of_visible hvisible.1 hvisible.2
  apply Text.trim_eq_self
  · intro c hc
    exact hblank c (List.mem_of_head? hc)
  · intro c hc
    exact hblank c (List.mem_of_getLast? hc)

theorem isEmpty_record (e : Entry) : e.record.isEmpty = false := by
  simp [record]

/-! ## Records -/

theorem Named.spelledBy_record (h : e.Named) : e.SpelledBy e.record :=
  ⟨e.weight.toNat.repr.toList, rfl, (isOptionName_iff _).1 h.first, (isOptionName_iff _).1 h.second,
    h.different, Text.readUInt32_eq_ok_iff.1 (Text.readUInt32_repr e.weight)⟩

/-- Only entries that name two different options by option names have records. -/
theorem SpelledBy.named {line : List Char} (h : e.SpelledBy line) : e.Named := by
  obtain ⟨weight, -, hfirst, hsecond, hdifferent, -⟩ := h
  exact ⟨(isOptionName_iff _).2 hfirst, (isOptionName_iff _).2 hsecond, hdifferent⟩

end Entry

/-! ## Tables -/

theorem lines_render {entries : List Entry} (h : ∀ e ∈ entries, e.Named) :
    Text.lines (Table.render ⟨entries⟩) = entries.map Entry.record := by
  refine Text.lines_flatMap_newline fun e he => ⟨(h e he).not_mem_record (by decide), ?_⟩
  intro hlast
  exact (h e he).not_mem_record (by decide) (List.mem_of_getLast? hlast)

theorem filledLines_records {entries : List Entry} (h : ∀ e ∈ entries, e.Named) :
    filledLines (entries.map Entry.record) = entries.map Entry.record := by
  have htrim : (entries.map Entry.record).map Text.trim = entries.map Entry.record := by
    rw [List.map_map]
    exact List.map_congr_left fun e he => (h e he).trim_record
  rw [filledLines, htrim, List.filter_eq_self]
  intro line hline
  obtain ⟨e, -, rfl⟩ := List.mem_map.1 hline
  rw [e.isEmpty_record]
  rfl

namespace Table

theorem parse_render {table : Table} (h : ∀ e ∈ table.entries, e.Named) :
    parse table.render = .ok table := by
  rw [parse_eq_ok_iff, Text.numberedLines, lines_render h, readRecords_eq_ok_iff,
    filledLines_records h, List.forall₂_map_right_iff]
  exact List.forall₂_same.2 fun e he => (h e he).spelledBy_record

theorem named_of_parse_eq_ok {text : List Char} {table : Table} (h : parse text = .ok table) :
    ∀ e ∈ table.entries, e.Named := by
  rw [parse_eq_ok_iff, Text.numberedLines, readRecords_eq_ok_iff] at h
  intro e he
  obtain ⟨line, hline⟩ : ∃ line, e.SpelledBy line := exists_of_forall₂ h.flip he
  exact hline.named

/-- A written table is read back if and only if each of its entries names two different options by
option names.  All tables that were read are such, whatever their text looked like. -/
theorem ofText_render (origin : Storage.Path) :
    (∀ table : Table, ofText origin table.render = .ok table ↔ ∀ e ∈ table.entries, e.Named) ∧
    ∀ (text : List Char) (table : Table), ofText origin text = .ok table →
      (∀ e ∈ table.entries, e.Named) ∧ ofText origin table.render = .ok table := by
  have hback : ∀ table : Table, ofText origin table.render = .ok table ↔
      ∀ e ∈ table.entries, e.Named := by
    intro table
    rw [ofText_eq_ok_iff]
    exact ⟨named_of_parse_eq_ok, parse_render⟩
  refine ⟨hback, ?_⟩
  intro text table h
  rw [ofText_eq_ok_iff] at h
  have hnamed := named_of_parse_eq_ok h
  exact ⟨hnamed, (hback table).2 hnamed⟩

/-- A text with blank lines, leading zeros and carriage returns is read as a table whose own text is
another one and is read as the same table. -/
theorem ofText_render_untidy :
    let origin := Storage.Path.ofString "w.txt"
    let text := " b,c:+007\r\n\n\tc,a:1 ".toList
    let table : Table := ⟨[⟨⟨"b", "c"⟩, 7⟩, ⟨⟨"c", "a"⟩, 1⟩]⟩
    ofText origin text = .ok table ∧ table.render = "b,c:7\nc,a:1\n".toList ∧
      ofText origin table.render = .ok table := by
  intro origin text table
  have hread : ofText origin text = .ok table := by
    rw [ofText_eq_ok_iff]
    rfl
  exact ⟨hread, by decide +kernel, ((ofText_render origin).2 text table hread).2⟩

end Table

end SqlReplay.Weights
