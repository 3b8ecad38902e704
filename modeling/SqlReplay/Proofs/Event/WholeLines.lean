import SqlReplay.Proofs.Event.Accounting

/-!
# Whole lines in the file of a journal

The file of a journal, as long as it takes what is written to it, holds whole lines only: what it
held at first and the lines of the first entries written, in order, each once
(`file_holds_whole_lines`). The other lines are in the buffer, which is empty after a flush and when
the journal ends. This is so at each point of a run, between two writes of one request included, and
for several journals that use the same path one after the other.
-/

namespace SqlReplay

open Storage

namespace Logging

variable {id : Id} {start buffer bytes : Bytes} {errors : ErrorStream} {l : Logging} {p : Path}

/-- Whether a journal has its file, which takes all writes, and a path to it. -/
structure Works (p : Path) (id : Id) (l : Logging) (buffer bytes : Bytes) : Prop where
  path : l.journal.path = p
  channel : l.journal.channel = .file id buffer
  takes : l.disk.Takes id bytes
  leads : Disk.Leads p l.disk id

/-! ## One request -/

theorem Works.flush (h : Works p id l buffer bytes) : Works p id l.flush [] (bytes ++ buffer) := by
  obtain ⟨hpath, hchannel, htakes, hleads⟩ := h
  obtain ⟨e, hdrain, he⟩ := Buffered.drain_takes htakes buffer
  have hrewrites := (Buffered.carries_drain id buffer l.disk).rewrites
  rw [hdrain] at hrewrites
  simp only [Logging.flush, hchannel, hdrain]
  exact ⟨hpath, rfl, he, hleads.rewrites hrewrites⟩

/-- Writing an entry gathers its line in the buffer, or writes the buffer first, or writes both. -/
inductive Works.Writes (p : Path) (id : Id) (l l' : Logging) (buffer bytes line : Bytes) : Prop
  | gathered (h : Works p id l' (buffer ++ line) bytes) (hdisk : l'.disk = l.disk)
  | drained (h : Works p id l' line (bytes ++ buffer)) (hdisk : l'.disk = l.flush.disk)
  | passed (h : Works p id l' [] (bytes ++ buffer ++ line))
    (hdisk : l'.disk = (l.flush.disk.append id line).2)

theorem Works.writes (h : Works p id l buffer bytes) (entry : Entry) :
    Works.Writes p id l (l.write entry) buffer bytes entry.lineBytes := by
  obtain ⟨hpath, hchannel, htakes, hleads⟩ := h
  obtain ⟨e, hdrain, he⟩ := Buffered.drain_takes htakes buffer
  obtain ⟨f, happend, hf⟩ := he.append entry.lineBytes
  have hflushed : l.flush.disk = e := by simp only [Logging.flush, hchannel, hdrain]
  have hputs := Buffered.puts_put id buffer entry.lineBytes l.disk
  have hrewrites := (Buffered.carries_put id buffer entry.lineBytes l.disk).rewrites
  simp only [Logging.write, hchannel]
  generalize Buffered.put id buffer entry.lineBytes l.disk = got at hputs hrewrites
  cases hputs with
  | gathered => exact .gathered ⟨hpath, rfl, htakes, hleads⟩ rfl
  | drained hdrain' =>
    cases hdrain.symm.trans hdrain'
    exact .drained ⟨hpath, rfl, he, hleads.rewrites hrewrites⟩ hflushed.symm
  | passed hdrain' happend' =>
    cases hdrain.symm.trans hdrain'
    cases happend.symm.trans happend'
    refine .passed ⟨hpath, rfl, hf, hleads.rewrites hrewrites⟩ ?_
    rw [hflushed, happend]
  | stuck hdrain' => cases hdrain.symm.trans hdrain'
  | refused hdrain' happend' =>
    cases hdrain.symm.trans hdrain'
    cases happend.symm.trans happend'

/-- A journal that works goes on working, and the file is left as it is, or as a flush would leave
it, or gets the whole line after that. -/
theorem Works.write (h : Works p id l buffer bytes) (entry : Entry) :
    (∃ buffer' bytes', Works p id (l.write entry) buffer' bytes') ∧
      ((l.write entry).disk = l.disk ∨ (l.write entry).disk = l.flush.disk ∨
        (l.write entry).disk = (l.flush.disk.append id entry.lineBytes).2) := by
  cases h.writes entry with
  | gathered h hdisk => exact ⟨⟨_, _, h⟩, .inl hdisk⟩
  | drained h hdisk => exact ⟨⟨_, _, h⟩, .inr (.inl hdisk)⟩
  | passed h hdisk => exact ⟨⟨_, _, h⟩, .inr (.inr hdisk)⟩

/-! ## One journal -/

theorem Works.serveAll (h : Works p id l buffer bytes) (requests : List Request) :
    ∃ buffer' bytes', Works p id (l.serveAll requests) buffer' bytes' := by
  induction requests generalizing l buffer bytes with
  | nil => exact ⟨buffer, bytes, h⟩
  | cons request rest ih =>
    cases request with
    | write entry =>
      obtain ⟨_, _, hwrite⟩ := (h.write entry).1
      exact ih hwrite
    | flush => exact ih h.flush

/-- The file and the buffer of a journal, opened on a file that shows some bytes, once it has served
requests. -/
theorem Works.filed (h : Works p id l [] start) (hlines : l.journal.lines = 0)
    (requests : List Request) : ∃ filed held, filed ++ held = Request.entries requests ∧
      Works p id (l.serveAll requests) (linesOf held) (start ++ linesOf filed) ∧
        (l.serveAll requests).journal.lines = (Request.entries requests).length := by
  have haccounts : Accounts id start l.errors l [] [] [] := by
    refine ⟨?_, hlines, ?_⟩
    · rw [linesOf, List.flatMap_nil, List.append_nil]
      exact h.takes.shows
    · rw [h.channel]
      exact .file rfl
  obtain ⟨filed, held, passed, hsum, hfile, hcount, hstands⟩ := haccounts.serveAll requests
  obtain ⟨buffer, bytes, hworks⟩ := h.serveAll requests
  rw [hworks.channel] at hstands
  obtain ⟨rfl, rfl⟩ := hstands.of_file
  obtain rfl := hworks.takes.eq_of_shows hfile
  rw [List.append_nil] at hsum
  exact ⟨filed, held, hsum, hworks, by rw [hcount, hsum]; rfl⟩

/-! ## One journal after the other -/

/-- The journal ends, and one is opened at the same path. -/
def reopened (l : Logging) : Logging := Journal.opening l.journal.path l.finish l.errors

/-- Journals one after the other at the same path, each of which serves some requests, and the one
that is opened after them. -/
def succession (l : Logging) (earlier : List (List Request)) : Logging :=
  earlier.foldl (fun l requests => (l.serveAll requests).reopened) l

theorem Works.finish (h : Works p id l buffer bytes) :
    l.finish.Takes id (bytes ++ buffer) ∧ Disk.Leads p l.finish id := by
  have hflush := h.flush.flush
  rw [List.append_nil] at hflush
  exact ⟨hflush.takes, hflush.leads⟩

theorem Works.reopened (h : Works p id l buffer bytes) :
    Works p id l.reopened [] (bytes ++ buffer) ∧ l.reopened.journal.lines = 0 := by
  obtain ⟨htakes, hleads⟩ := h.finish
  have hopening : l.reopened = ⟨⟨p, .file id [], 0⟩, l.finish, l.errors⟩ := by
    simp only [Logging.reopened, Journal.opening, Journal.openFile, h.path,
      hleads.makeParents htakes.faults, hleads.openFile htakes.faults]
  rw [hopening]
  exact ⟨⟨rfl, rfl, htakes, hleads⟩, rfl⟩

theorem Works.succession (h : Works p id l [] start) (hlines : l.journal.lines = 0)
    (earlier : List (List Request)) :
    Works p id (l.succession earlier) [] (start ++ linesOf (Request.entries earlier.flatten)) ∧
      (l.succession earlier).journal.lines = 0 := by
  induction earlier generalizing l start with
  | nil =>
    refine ⟨?_, hlines⟩
    rwa [List.flatten_nil, Request.entries, List.filterMap_nil, linesOf, List.flatMap_nil,
      List.append_nil]
  | cons requests earlier ih =>
    obtain ⟨filed, held, hsum, hworks, -⟩ := h.filed hlines requests
    obtain ⟨hnext, hzero⟩ := hworks.reopened
    rw [List.append_assoc, ← linesOf_append, hsum] at hnext
    have hrest := ih hnext hzero
    rwa [List.append_assoc, ← linesOf_append, ← Request.entries_append] at hrest

theorem leads_of_openFile {d e : Disk} (h : Journal.openFile p d = (.ok id, e)) :
    Disk.Leads p e id := by
  unfold Journal.openFile at h
  rcases hmade : d.makeParents p with ⟨⟨parent, fault⟩ | _, f⟩
  · rw [hmade] at h
    cases h
  · rcases hopen : f.openFile p with ⟨fault | id', g⟩
    · simp only [hmade, hopen] at h
      cases h
    · simp only [hmade, hopen] at h
      cases h
      obtain ⟨hslash, hdirs, hlocate⟩ := Disk.openFile_eq_ok hopen
      refine ⟨fun hparent => ?_, hslash, hlocate⟩
      obtain ⟨place, henters⟩ := Disk.makeParents_eq_ok hmade hparent
      exact ⟨place, henters.congr hdirs⟩

theorem works_of_opening {d : Disk}
    (hopen : (Journal.opening p d errors).journal.channel = .file id [])
    (htakes : (Journal.opening p d errors).disk.Takes id start) :
    Works p id (Journal.opening p d errors) [] start ∧
      (Journal.opening p d errors).journal.lines = 0 := by
  rcases opening_cases p d errors with ⟨id', e, hfile, hopening⟩ | ⟨fault, e, hopening⟩
  · rw [hopening] at hopen htakes ⊢
    cases hopen
    refine ⟨⟨rfl, rfl, htakes, ?_⟩, rfl⟩
    exact leads_of_openFile hfile
  · rw [hopening] at hopen
    cases hopen

/-- The file of a journal holds what it held when the first journal was opened and the lines of the
first entries written, whole, in order, each once. The other lines are in the buffer; a flush and
the end of the journal leave none there. A further entry changes the file by writing the buffer, by
writing the buffer and then the whole line, or not at all. -/
theorem file_holds_whole_lines {d : Disk}
    (hopen : (Journal.opening p d errors).journal.channel = .file id [])
    (htakes : (Journal.opening p d errors).disk.Takes id start)
    (earlier : List (List Request)) (requests : List Request)
    (hl : l = ((Journal.opening p d errors).succession earlier).serveAll requests) :
    ∃ filed held, filed ++ held = Request.entries (earlier.flatten ++ requests) ∧
      (l.disk.read p).map Content.bytes = .ok (start ++ linesOf filed) ∧
      l.journal.channel = .file id (linesOf held) ∧
      l.journal.lines = (Request.entries requests).length ∧
      (l.flush.disk.read p).map Content.bytes = .ok (start ++ linesOf (filed ++ held)) ∧
      l.flush.journal.channel = .file id [] ∧
      (l.finish.read p).map Content.bytes = .ok (start ++ linesOf (filed ++ held)) ∧
      ∀ entry, (l.write entry).disk = l.disk ∨ (l.write entry).disk = l.flush.disk ∨
        (l.write entry).disk = (l.flush.disk.append id entry.lineBytes).2 := by
  obtain ⟨hfirst, hzero⟩ := works_of_opening hopen htakes
  obtain ⟨hlast, hzero⟩ := hfirst.succession hzero earlier
  obtain ⟨filed, held, hsum, hworks, hcount⟩ := hlast.filed hzero requests
  rw [← hl] at hworks hcount
  rw [List.append_assoc, ← linesOf_append] at hworks
  have hall : start ++ linesOf (Request.entries earlier.flatten ++ filed) ++ linesOf held =
      start ++ linesOf (Request.entries earlier.flatten ++ filed ++ held) := by
    rw [List.append_assoc, ← linesOf_append]
  have hflush := hworks.flush
  have hfinish := hworks.finish
  rw [hall] at hflush hfinish
  refine ⟨Request.entries earlier.flatten ++ filed, held, ?_, hworks.leads.read hworks.takes.shows,
    hworks.channel, hcount, hflush.leads.read hflush.takes.shows, hflush.channel,
    hfinish.2.read hfinish.1.shows, fun entry => (hworks.write entry).2⟩
  rw [List.append_assoc, hsum, Request.entries_append]

/-- A disk with a file of one line in a directory of its own. -/
def oldFile : Disk := Disk.initial.place (Path.ofString "logs/events.jsonl") (Utf8.ofString "old\n")

/-- Two journals that wrote a line each to the file, the first of which was flushed. -/
def twoOnOldFile : Logging :=
  ((Journal.opening (Path.ofString "logs/events.jsonl") oldFile ⟨true, ""⟩).succession
    [oneLine]).serveAll [.write ⟨"2024-01-01T00:00:01.000Z", .of .replayComplete .info⟩]

theorem file_holds_whole_lines_old_file :
    (Journal.opening (Path.ofString "logs/events.jsonl") oldFile ⟨true, ""⟩).journal.channel =
      .file 2 [] ∧
    (Journal.opening (Path.ofString "logs/events.jsonl") oldFile ⟨true, ""⟩).disk.Takes 2
      (Utf8.ofString "old\n") ∧
    twoOnOldFile.journal.lines = 1 ∧
    ∃ filed held, filed ++ held = [⟨"2024-01-01T00:00:00.000Z", .of .replayStart .info⟩,
        ⟨"2024-01-01T00:00:01.000Z", .of .replayComplete .info⟩] ∧
      (twoOnOldFile.finish.read (Path.ofString "logs/events.jsonl")).map Content.bytes =
        .ok (Utf8.ofString "old\n" ++ linesOf (filed ++ held)) := by
  have hopen : (Journal.opening (Path.ofString "logs/events.jsonl") oldFile
      ⟨true, ""⟩).journal.channel = .file 2 [] := by decide +kernel
  have htakes : (Journal.opening (Path.ofString "logs/events.jsonl") oldFile
      ⟨true, ""⟩).disk.Takes 2 (Utf8.ofString "old\n") := by
    refine ⟨by decide +kernel, .holding (.plain (Utf8.ofString "old\n")), ?_, rfl, rfl, rfl⟩
    rfl
  obtain ⟨filed, held, hsum, -, -, hlines, -, -, hfinish, -⟩ :=
    file_holds_whole_lines hopen htakes [oneLine]
      [.write ⟨"2024-01-01T00:00:01.000Z", .of .replayComplete .info⟩] rfl
  exact ⟨hopen, htakes, hlines, filed, held, hsum, hfinish⟩

end Logging

end SqlReplay
