import SqlReplay.Event.Event
import SqlReplay.Proofs.Document.JsonRoundTrip
import SqlReplay.Proofs.Text.Cuts
import SqlReplay.Proofs.Text.Utf8

/-!
# Entries and their lines

The line of an entry ends with its only line feed and is read back as that entry, whatever its
texts are and whichever of its facts are given; the numbers are those that an entry can hold
(`Entry.Fits`). So the line tells the entry, and a file made of lines is cut at its line feeds into
the entries it was made of (`entry_lines`).
-/

namespace SqlReplay

open Document

/-! ## Fields of a record -/

theorem Document.field?_append (front back : List (String × Document)) (name : String) :
    (record (front ++ back)).field? name =
      ((record back).field? name).or ((record front).field? name) := by
  simp only [field?, List.reverse_append, List.find?_append, Option.map_or]

theorem Document.field?_cons (name other : String) (d : Document)
    (fields : List (String × Document)) :
    (record ((name, d) :: fields)).field? other =
      ((record fields).field? other).or (if name = other then some d else none) := by
  rw [← List.singleton_append, field?_append]
  by_cases h : name = other <;> simp [field?, h]

namespace Event

theorem field?_textField (name other : String) (value : Option String) :
    (record (textField name value)).field? other =
      if name = other then value.map text else none := by
  cases value <;> by_cases h : name = other <;> simp [textField, field?, h]

theorem field?_numberField (name other : String) (value : Option Nat) :
    (record (numberField name value)).field? other =
      if name = other then value.map ofNat else none := by
  cases value <;> by_cases h : name = other <;> simp [numberField, field?, h]

end Event

theorem EventKind.ofName?_name (k : EventKind) : ofName? k.name = some k := by
  cases k <;> rfl

theorem Severity.ofName?_name (s : Severity) : ofName? s.name = some s := by
  cases s <;> rfl

namespace Entry

/-- Whether the numbers of an entry are those that an entry can hold. -/
structure Fits (e : Entry) : Prop where
  position : ∀ n ∈ e.event.position, n ≤ numberLimit
  line : ∀ n ∈ e.event.line, n ≤ numberLimit
  count : ∀ n ∈ e.event.count, n ≤ numberLimit
  failed : ∀ n ∈ e.event.failed, n ≤ numberLimit
  durationMs : ∀ n ∈ e.event.durationMs, n ≤ numberLimit

theorem optional?_text {d : Document} (name : String) {value : Option String}
    (h : d.field? name = value.map text) : optional? d name text? = some value := by
  rw [optional?, h]
  cases value <;> rfl

theorem optional?_natural {d : Document} (name : String) {value : Option Nat}
    (hfits : ∀ n ∈ value, n ≤ numberLimit) (h : d.field? name = value.map ofNat) :
    optional? d name (natural? numberLimit) = some value := by
  rw [optional?, h]
  cases value with
  | none => rfl
  | some n =>
    have hn := hfits n rfl
    have hrange : 0 ≤ (n : Int) ∧ (n : Int) ≤ numberLimit := by omega
    simp only [Option.map_some, Document.ofNat, isNull, Bool.false_eq_true, if_false, natural?,
      if_pos hrange, Int.toNat_natCast]

theorem field?_document (e : Entry) (name : String) : e.document.field? name =
    (if "details" = name then e.event.details.map text else none).or
    ((if "duration_ms" = name then e.event.durationMs.map ofNat else none).or
    ((if "path" = name then e.event.path.map text else none).or
    ((if "failed" = name then e.event.failed.map ofNat else none).or
    ((if "count" = name then e.event.count.map ofNat else none).or
    ((if "error_message" = name then e.event.errorMessage.map text else none).or
    ((if "error_code" = name then e.event.errorCode.map text else none).or
    ((if "sql" = name then e.event.sql.map text else none).or
    ((if "line" = name then e.event.line.map ofNat else none).or
    ((if "position" = name then e.event.position.map ofNat else none).or
    ((if "database" = name then e.event.database.map text else none).or
    ((if "severity" = name then some (text e.event.severity.name) else none).or
    ((if "event" = name then some (text e.event.kind.name) else none).or
    (if "ts" = name then some (text e.time) else none))))))))))))) := by
  have hempty : (record []).field? name = none := rfl
  simp only [document, Event.fields, field?_cons, field?_append, Event.field?_textField,
    Event.field?_numberField, hempty, Option.none_or, Option.or_assoc]

/-- An entry is what its data tree describes. -/
theorem ofDocument?_document {e : Entry} (h : e.Fits) : ofDocument? e.document = some e := by
  have hfield := field?_document e
  have htime : e.document.field? "ts" = some (text e.time) := by simp [hfield]
  have hkind : e.document.field? "event" = some (text e.event.kind.name) := by simp [hfield]
  have hseverity : e.document.field? "severity" = some (text e.event.severity.name) := by
    simp [hfield]
  have hdatabase : optional? e.document "database" text? = some e.event.database :=
    optional?_text "database" (by simp [hfield])
  have hposition := optional?_natural (d := e.document) "position" h.position (by simp [hfield])
  have hline := optional?_natural (d := e.document) "line" h.line (by simp [hfield])
  have hsql : optional? e.document "sql" text? = some e.event.sql :=
    optional?_text "sql" (by simp [hfield])
  have hcode : optional? e.document "error_code" text? = some e.event.errorCode :=
    optional?_text "error_code" (by simp [hfield])
  have hmessage : optional? e.document "error_message" text? = some e.event.errorMessage :=
    optional?_text "error_message" (by simp [hfield])
  have hcount := optional?_natural (d := e.document) "count" h.count (by simp [hfield])
  have hfailed := optional?_natural (d := e.document) "failed" h.failed (by simp [hfield])
  have hpath : optional? e.document "path" text? = some e.event.path :=
    optional?_text "path" (by simp [hfield])
  have hduration :=
    optional?_natural (d := e.document) "duration_ms" h.durationMs (by simp [hfield])
  have hdetails : optional? e.document "details" text? = some e.event.details :=
    optional?_text "details" (by simp [hfield])
  simp only [ofDocument?, htime, hkind, hseverity, hdatabase, hposition, hline, hsql, hcode,
    hmessage, hcount, hfailed, hpath, hduration, hdetails, text?, EventKind.ofName?_name,
    Severity.ofName?_name, Option.bind_eq_bind, Option.bind_some, Option.pure_def]

theorem plain_document {e : Entry} (h : e.Fits) : e.document.Plain := by
  have htext : ∀ (name : String) (value : Option String), ∀ f ∈ Event.textField name value,
      f.2.Plain := by
    intro name value f hf
    rw [Event.textField, Option.mem_toList, Option.map_eq_some_iff] at hf
    obtain ⟨s, -, rfl⟩ := hf
    exact .text s
  have hnumber : ∀ (name : String) {value : Option Nat}, (∀ n ∈ value, n ≤ numberLimit) →
      ∀ f ∈ Event.numberField name value, f.2.Plain := by
    intro name value hfits f hf
    rw [Event.numberField, Option.mem_toList, Option.map_eq_some_iff] at hf
    obtain ⟨n, hn, rfl⟩ := hf
    exact .ofNat (Nat.lt_of_le_pred (by decide) (hfits n hn))
  refine .record ?_
  simp only [Event.fields, List.forall_mem_cons, List.forall_mem_append, List.not_mem_nil,
    false_implies, implies_true, and_true]
  refine ⟨.text _, ?_, htext _ _⟩
  refine ⟨⟨⟨⟨⟨⟨⟨⟨⟨⟨⟨.text _, .text _⟩, ?_⟩, ?_⟩, ?_⟩, ?_⟩, ?_⟩, ?_⟩, ?_⟩, ?_⟩, ?_⟩, ?_⟩
  · exact htext _ _
  · exact hnumber _ h.position
  · exact hnumber _ h.line
  · exact htext _ _
  · exact htext _ _
  · exact htext _ _
  · exact hnumber _ h.count
  · exact hnumber _ h.failed
  · exact htext _ _
  · exact hnumber _ h.durationMs

/-! ## Lines -/

/-- The entry that a line describes. -/
def ofLine? (line : List Char) : Option Entry := (ofJson? line).bind ofDocument?

/-- The entries that the lines of a file describe. -/
def ofBytes? (bytes : Bytes) : Option (List Entry) :=
  match Utf8.decode bytes with
  | .ok cs => (Text.lines cs).mapM ofLine?
  | .error _ => none

theorem ofLine?_append {e : Entry} (h : e.Fits) {space : List Char}
    (hspace : ∀ c ∈ space, isJsonSpace c = true) : ofLine? (e.document.json ++ space) = some e := by
  rw [ofLine?, ofJson?_json (plain_document h) hspace, Option.bind_some, ofDocument?_document h]

/-- An entry is read back from its line. -/
theorem ofLine?_line {e : Entry} (h : e.Fits) : ofLine? e.line = some e :=
  ofLine?_append h (List.forall_mem_singleton.2 rfl)

/-- An entry is read back from its line without the end of the line. -/
theorem ofLine?_json {e : Entry} (h : e.Fits) : ofLine? e.document.json = some e := by
  have hread : ofLine? (e.document.json ++ []) = some e := ofLine?_append h nofun
  rwa [List.append_nil] at hread

theorem not_mem_json {e : Entry} (h : e.Fits) {c : Char} (hc : c.toNat < 32) :
    c ∉ e.document.json := fun hmem => Nat.not_le.2 hc (le_of_mem_json (plain_document h) hmem)

theorem lineBytes_eq (e : Entry) : e.lineBytes = Utf8.encode e.document.json ++ [10] :=
  Utf8.encode_append e.document.json ['\n']

/-- The last byte of a line is its only line feed. -/
theorem not_mem_encode_json {e : Entry} (h : e.Fits) : 10 ∉ Utf8.encode e.document.json := by
  intro hmem
  obtain ⟨c, hc, hnumber⟩ := Utf8.exists_of_mem_encode (by decide) hmem
  have hfeed : c.toNat = 10 := hnumber
  exact not_mem_json h (by omega) hc

theorem lines_flatMap_line {es : List Entry} (h : ∀ e ∈ es, e.Fits) :
    Text.lines (es.flatMap line) = es.map fun e => e.document.json := by
  refine Text.lines_flatMap_newline fun e he => ⟨not_mem_json (h e he) (by decide), ?_⟩
  intro hlast
  exact not_mem_json (h e he) (by decide) (List.mem_of_getLast? hlast)

theorem mapM_ofLine? {es : List Entry} (h : ∀ e ∈ es, e.Fits) :
    (es.map fun e => e.document.json).mapM ofLine? = some es := by
  induction es with
  | nil => rfl
  | cons e es ih =>
    obtain ⟨he, hes⟩ := List.forall_mem_cons.1 h
    simp only [List.map_cons, List.mapM_cons, ofLine?_json he, ih hes, Option.bind_eq_bind,
      Option.bind_some, Option.pure_def]

theorem encode_flatMap_line (es : List Entry) :
    Utf8.encode (es.flatMap line) = es.flatMap lineBytes := by
  induction es with
  | nil => rfl
  | cons e es ih => rw [List.flatMap_cons, Utf8.encode_append, ih, List.flatMap_cons, lineBytes]

theorem ofBytes?_flatMap {es : List Entry} (h : ∀ e ∈ es, e.Fits) :
    ofBytes? (es.flatMap lineBytes) = some es := by
  simp only [ofBytes?, ← encode_flatMap_line, Utf8.decode_encode, lines_flatMap_line h,
    mapM_ofLine? h]

theorem ofBytes?_lineBytes {e : Entry} (h : e.Fits) : ofBytes? e.lineBytes = some [e] := by
  have hsingle : ∀ x ∈ [e], x.Fits := by
    intro x hx
    rwa [List.mem_singleton.1 hx]
  have hread := ofBytes?_flatMap hsingle
  rwa [List.flatMap_singleton] at hread

/-- The line of an entry ends with its only line feed and is read back as the entry. So entries
with equal lines are equal, and a file made of the lines of entries is cut at its line feeds into
one text for each, and is read back as those entries, in order. -/
theorem lines_tell {es : List Entry} (h : ∀ e ∈ es, e.Fits) :
    (∀ e ∈ es, (∃ front, e.lineBytes = front ++ [10] ∧ 10 ∉ front) ∧ ofLine? e.line = some e) ∧
    (∀ e ∈ es, ∀ e' ∈ es, e.lineBytes = e'.lineBytes → e = e') ∧
    Text.lines (es.flatMap line) = es.map (fun e => e.document.json) ∧
    ofBytes? (es.flatMap lineBytes) = some es := by
  refine ⟨?_, ?_, lines_flatMap_line h, ofBytes?_flatMap h⟩
  · intro e he
    exact ⟨⟨_, lineBytes_eq e, not_mem_encode_json (h e he)⟩, ofLine?_line (h e he)⟩
  · intro e he e' he' hbytes
    have hread := ofBytes?_lineBytes (h e he)
    rw [hbytes, ofBytes?_lineBytes (h e' he'), Option.some.injEq, List.singleton_inj] at hread
    exact hread.symm

/-- Entries whose texts hold quotes, backslashes, line ends and a control character, the second one
with every fact given. -/
def unruly : List Entry := [
  ⟨"2024-01-01T00:00:00.000Z", { Event.of .statementFailed .warning with
    sql := some "SELECT \"a\nb\" -- \\\r\x00 é😀\n" }⟩,
  ⟨"\n", {
    kind := .replayComplete, severity := .critical, database := some "shop\t",
    position := some 1, line := some Entry.numberLimit, sql := some "", errorCode := some "\"",
    errorMessage := some "near \"\n\": syntax error", count := some 0, failed := some 2,
    path := some "C:\\log", durationMs := some Entry.numberLimit, details := some "\x1b[0m" }⟩]

theorem lines_tell_unruly : (∀ e ∈ unruly, e.Fits) ∧
    ofBytes? (unruly.flatMap lineBytes) = some unruly := by
  have hfits : ∀ e ∈ unruly, e.Fits := by
    simp only [unruly, Event.of, List.forall_mem_cons, List.not_mem_nil, false_implies,
      implies_true, and_true]
    exact ⟨⟨nofun, nofun, nofun, nofun, nofun⟩, by constructor <;> simp [numberLimit]⟩
  exact ⟨hfits, (lines_tell hfits).2.2.2⟩

end Entry

end SqlReplay
