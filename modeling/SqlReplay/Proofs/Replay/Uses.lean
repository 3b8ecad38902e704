import SqlReplay.Proofs.Replay.Selection
import SqlReplay.Replay.Configured

/-!
# Uses of a connection

What is asked of a connection one call after the other, and how its use ends.  A connection whose
close leaves it not open, be it with an error (`AlwaysCloses`), is closed once when its use is
finished.  What a run asks of its connection before the end is no close (`runsTo_resetAndReplay`),
so a target on which a log was replayed is still open and is then closed (`finished_of_open`).
-/

namespace SqlReplay.Replay

open Storage

/-! ## Use of a connection -/

section Use

variable {σ : Type} [Connection σ]

/-- The connection after a call, whatever the answer. -/
def called (s : σ) : Call → σ
  | .execute sql => (Connection.execute sql s).2
  | .commit => (Connection.commit s).2
  | .close => (Connection.close s).2
  | .reset database => (Connection.reset database s).2

/-- The connection after calls, one after the other. -/
def used (s : σ) (calls : List Call) : σ := calls.foldl called s

/-- Whether a close, failed or not, leaves the connection not open. -/
def AlwaysCloses (σ : Type) [Connection σ] : Prop :=
  ∀ s : σ, Connection.isOpen (Connection.close s).2 = false

theorem called_record (r : Recorded σ) (c : Call) :
    called r c = ⟨r.calls ++ [c], called r.inner c⟩ := by
  cases c <;> rfl

theorem used_cons (s : σ) (c : Call) (calls : List Call) :
    used s (c :: calls) = used (called s c) calls := rfl

theorem used_append (s : σ) (calls more : List Call) :
    used s (calls ++ more) = used (used s calls) more := List.foldl_append

theorem used_record (calls : List Call) (r : Recorded σ) :
    used r calls = ⟨r.calls ++ calls, used r.inner calls⟩ := by
  induction calls generalizing r with
  | nil => simp only [used, List.foldl_nil, List.append_nil]
  | cons c rest ih =>
    rw [used_cons, called_record, ih, used_cons, List.append_assoc, List.singleton_append]

/-- A connection that is released is closed if it was open, and else left alone. -/
theorem release_record (r : Recorded σ) : Connection.release r =
    ⟨r.calls ++ if Connection.isOpen r.inner then [.close] else [],
      Connection.release r.inner⟩ := by
  obtain ⟨calls, s⟩ := r
  have hopen : Connection.isOpen (⟨calls, s⟩ : Recorded σ) = Connection.isOpen s := rfl
  simp only [Connection.release, hopen]
  split
  · rfl
  · rw [List.append_nil]

theorem isOpen_release (hcloses : AlwaysCloses σ) (s : σ) :
    Connection.isOpen (Connection.release s) = false := by
  unfold Connection.release
  split
  · exact hcloses s
  · next hclosed => exact Bool.eq_false_iff.2 hclosed

/-- What is released already stays as it is. -/
theorem release_of_not_open {s : σ} (h : Connection.isOpen s = false) :
    Connection.release s = s := by
  rw [Connection.release, h, if_neg Bool.false_ne_true]

/-- A connection whose use is finished is closed, and the close is all that happens to it. -/
theorem finish_eq_close (hcloses : AlwaysCloses σ) (s : σ) :
    Connection.finish s = Connection.close s :=
  Prod.ext rfl (release_of_not_open (hcloses s))

theorem alwaysCloses_record (hcloses : AlwaysCloses σ) : AlwaysCloses (Recorded σ) :=
  fun r => hcloses r.inner

/-- However a run comes out, its connection is closed once if it was still open. -/
theorem state_finished_record {α : Type} (hcloses : AlwaysCloses σ) (o : Outcome (Recorded σ) α)
    (hopen : Connection.isOpen o.state.inner = true) :
    o.finished.state = ⟨o.state.calls ++ [.close], Connection.release o.state.inner⟩ := by
  have hrelease := release_record o.state
  have hclose : Connection.close o.state = ((Connection.close o.state.inner).1,
      (⟨o.state.calls ++ [.close], Connection.release o.state.inner⟩ : Recorded σ)) := by
    rw [Connection.release, if_pos hopen]
    rfl
  rw [if_pos hopen] at hrelease
  unfold Outcome.finished
  split
  · exact hrelease
  · rw [finish_eq_close (alwaysCloses_record hcloses), hclose]
    cases (Connection.close o.state.inner).1 <;> rfl

end Use

/-! ## What runs ask of a connection -/

/-- Whether a call is one of a run on a database: it starts no other database over and does not
close. -/
def Call.OfRun (database : String) : Call → Prop
  | .execute _ => True
  | .commit => True
  | .close => False
  | .reset name => name = database

section OfRun

variable {σ : Type} [Connection σ] {database : String}

/-- Whether calls of a run lead from one state of a connection to another. -/
def RunsTo (database : String) (s s' : σ) : Prop :=
  ∃ calls, (∀ c ∈ calls, Call.OfRun database c) ∧ s' = used s calls

theorem RunsTo.refl (database : String) (s : σ) : RunsTo database s s := ⟨[], nofun, rfl⟩

theorem RunsTo.trans {s s' s'' : σ} (h : RunsTo database s s') (h' : RunsTo database s' s'') :
    RunsTo database s s'' := by
  obtain ⟨calls, hcalls, rfl⟩ := h
  obtain ⟨more, hmore, rfl⟩ := h'
  refine ⟨calls ++ more, fun c hc => ?_, (used_append s calls more).symm⟩
  exact (List.mem_append.1 hc).elim (hcalls c) (hmore c)

theorem runsTo_called {c : Call} (hc : c.OfRun database) (s : σ) : RunsTo database s (called s c) :=
  ⟨[c], fun _ hmem => List.mem_singleton.1 hmem ▸ hc, rfl⟩

theorem runsTo_runStatements (database : String) (statements : List LoggedStatement) (s : σ) :
    RunsTo database s (runStatements statements s).state := by
  induction statements generalizing s with
  | nil => exact RunsTo.refl database s
  | cons statement rest ih =>
    have hfirst : RunsTo database s (Connection.execute statement.sql s).2 :=
      runsTo_called (c := .execute statement.sql) trivial s
    unfold runStatements
    generalize Connection.execute statement.sql s = got at hfirst
    obtain ⟨(message | message) | _, s'⟩ := got
    · exact hfirst
    · exact hfirst.trans (ih s')
    · exact hfirst.trans (ih s')

theorem runsTo_replay (database : String) (log : ReplayLog) (s : σ) :
    RunsTo database s (replay log s).state := by
  have hrun := runsTo_runStatements database log.statements s
  have hcommit : RunsTo database (runStatements log.statements s).state
      (Connection.commit (runStatements log.statements s).state).2 :=
    runsTo_called (c := .commit) trivial _
  simp only [replay]
  split
  · exact hrun
  · generalize Connection.commit (runStatements log.statements s).state = got at hcommit
    obtain ⟨_ | _, s'⟩ := got
    · exact hrun.trans hcommit
    · exact hrun.trans hcommit

theorem runsTo_resetAndReplay (database : String) (log : ReplayLog) (s : σ) :
    RunsTo database s (resetAndReplay database log s).state := by
  have hreset : RunsTo database s (Connection.reset database s).2 :=
    runsTo_called (c := .reset database) rfl s
  unfold resetAndReplay
  split
  · exact RunsTo.refl database s
  · simp only [resetDatabase]
    generalize Connection.reset database s = got at hreset
    obtain ⟨_ | _, s'⟩ := got
    · exact hreset
    · exact hreset.trans (runsTo_replay database log s')

theorem close_not_mem {calls : List Call} (h : ∀ c ∈ calls, Call.OfRun database c) :
    .close ∉ calls := fun hclose => h .close hclose

end OfRun

/-! ## Targets -/

namespace Target

variable {σ : Type} [Engine σ] {t : Target σ}

theorem alwaysCloses : AlwaysCloses (Target σ) := fun _ => isOpen_deselect _

theorem called_eq_step (t : Target σ) (c : Call) : called t c = t.step (.call c) := by
  cases c <;> rfl

/-- Only a close ends the session. -/
theorem isOpen_called (hopen : t.isOpen = true) {c : Call} (hc : c ≠ .close) :
    (called t c).isOpen = true := by
  rw [called_eq_step]
  match c with
  | .execute line =>
    rcases t.execute_cases line with hsame | ⟨-, s, -, hran⟩
    · rwa [step, hsame]
    · rwa [step, hran]
  | .commit =>
    rcases t.commit_cases with hsame | ⟨-, s, -, -, hran⟩
    · rwa [step, hsame]
    · rwa [step, hran]
  | .close => exact absurd rfl hc
  | .reset name =>
    by_cases hadmits : t.Admits name
    · rcases reset_cases hadmits with ⟨s, -, hreset⟩ | ⟨-, hreset⟩
      · rwa [step, hreset]
      · rwa [step, hreset]
    · rwa [step, reset_of_not_admits hadmits]

theorem isOpen_used (hopen : t.isOpen = true) {calls : List Call} (hcalls : .close ∉ calls) :
    (used t calls).isOpen = true := by
  induction calls generalizing t with
  | nil => exact hopen
  | cons c rest ih =>
    obtain ⟨hc, hrest⟩ := not_or.1 (List.mem_cons.not.1 hcalls)
    exact ih (isOpen_called hopen (Ne.symm hc)) hrest

/-- What is asked of a target keeps its fields in tune. -/
theorem Sound.used (h : t.Sound) (calls : List Call) : (used t calls).Sound := by
  induction calls generalizing t with
  | nil => exact h
  | cons c rest ih =>
    rw [used_cons, called_eq_step]
    exact ih (h.step _)

theorem isOpen_resetAndReplay (hopen : t.isOpen = true) (database : String) (log : ReplayLog) :
    (resetAndReplay database log t).state.isOpen = true := by
  obtain ⟨calls, hofrun, hstate⟩ := runsTo_resetAndReplay database log t
  rw [hstate]
  exact isOpen_used hopen (close_not_mem hofrun)

/-- To release an open target is to close it. -/
theorem release_of_open (hopen : t.isOpen = true) : Connection.release t = t.close.2 :=
  if_pos hopen

end Target

section Handles

variable {σ : Type} [Engine σ] {t : Target σ} {s : σ}

theorem execute_of_handle (hopen : t.isOpen = true) (hs : t.handle? = some s)
    (line : String) : Connection.execute line t = ((Target.runLine line s t.disk).1,
      { t with handle? := some (Target.runLine line s t.disk).2.1
               disk := (Target.runLine line s t.disk).2.2 }) := by
  simp only [Connection.execute, Target.execute, hopen, hs]
  rfl

theorem commit_of_handle (hopen : t.isOpen = true) (hs : t.handle? = some s) :
    Connection.commit t = if Engine.autocommits s then (.ok (), t) else
      ((Engine.perform "COMMIT" s t.disk).1.mapError fun fault => .connection "commit" fault.text,
        { t with handle? := some (Engine.perform "COMMIT" s t.disk).2.1
                 disk := (Engine.perform "COMMIT" s t.disk).2.2 }) := by
  simp only [Connection.commit, Target.commit, hopen, hs]
  rfl

theorem close_of_handle (hs : t.handle? = some s) :
    t.close = ((Engine.close s t.disk).1.mapError fun fault => .connection "close" fault.text,
      { t with isOpen := false, handle? := none, database? := none
               disk := (Engine.close s t.disk).2 }) := by
  have hhandle : ({ t with isOpen := false } : Target σ).handle? = some s := hs
  rw [Target.close, Target.deselect_of_handle hhandle]

end Handles

/-- The use of an open target ends with its close, which may still fail a run that went well. -/
theorem finished_of_open {σ α : Type} [Engine σ] {o : Outcome (Target σ) α}
    (hopen : o.state.isOpen = true) :
    o.finished = ⟨o.result.bind fun a => o.state.close.1.map fun _ => a, o.events,
      o.state.close.2⟩ := by
  have hclose : Connection.close o.state = o.state.close := rfl
  unfold Outcome.finished
  rw [Target.release_of_open hopen, finish_eq_close Target.alwaysCloses, hclose]
  generalize o.state.close = got
  cases o.result with
  | error fault => rfl
  | ok a => obtain ⟨_ | _, u⟩ := got <;> rfl

end SqlReplay.Replay
