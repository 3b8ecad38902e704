import SqlReplay.Proofs.CommandLine.Failures

/-!
# Exit codes

The exit code is that of the first problem that a run meets, if the error stream takes what is said
of it (`exitCode_run`).  A run comes out in one of eleven ways (`outcomes`), each of which meets a
problem of its own, so the exit code tells the kind of way (`exitCode_tells`).
-/

namespace SqlReplay.CommandLine

open Storage Replay

/-! ## The error stream -/

section ErrorStream

theorem put_accepts (e : ErrorStream) (text : String) : (e.put text).2.accepts = e.accepts := by
  unfold ErrorStream.put
  split <;> rfl

theorem put_arrives (e : ErrorStream) (text : String) : (e.put text).1 = e.accepts := by
  unfold ErrorStream.put
  split <;> simp_all

theorem opening_accepts (path : Path) (d : Disk) (errors : ErrorStream) :
    (Journal.opening path d errors).errors.accepts = errors.accepts := by
  unfold Journal.opening
  split
  · rfl
  · exact put_accepts _ _

theorem putError_accepts (l : Logging) (line : String) :
    (l.putError line).errors.accepts = l.errors.accepts := put_accepts _ _

theorem write_accepts (l : Logging) (entry : Entry) :
    (l.write entry).errors.accepts = l.errors.accepts := by
  unfold Logging.write
  split
  · split
    · rfl
    · exact putError_accepts _ _
  · exact putError_accepts _ _
  · rfl

theorem writeAll_accepts (l : Logging) (entries : List Entry) :
    (l.writeAll entries).errors.accepts = l.errors.accepts := by
  induction entries generalizing l with
  | nil => rfl
  | cons entry rest ih => exact (ih (l.write entry)).trans (write_accepts l entry)

end ErrorStream

variable (i : Invocation) (c : Circumstances) (clock : Clock) (disk : Disk)

theorem carryOut_accepts : (i.carryOut c disk).errors.accepts = c.errorsAccept := by
  have hreplay (change : Config → Config) :
      (performReplay c i.common change disk ⟨c.errorsAccept, ""⟩).errors.accepts =
        c.errorsAccept := by
    unfold performReplay
    split
    · rfl
    · dsimp only
      split
      · rfl
      · exact opening_accepts _ _ _
  have hgenerate (change : Config → Config) :
      (performGenerate c i.common change disk ⟨c.errorsAccept, ""⟩).errors.accepts =
        c.errorsAccept := by
    unfold performGenerate
    split
    · rfl
    · exact opening_accepts _ _ _
  obtain ⟨common, command⟩ := i
  cases command with
  | replay log database dataDir => exact hreplay _
  | generate output seed min max => exact hgenerate _
  | _ => rfl

theorem perform_accepts : (i.perform c disk).errors.accepts = c.errorsAccept := by
  cases hwarns : i.warns c disk with
  | true =>
    rw [perform_of_warns hwarns]
    exact carryOut_accepts i c disk
  | false => rw [perform_of_unwarned hwarns]; rfl

theorem logged_accepts : ((i.perform c disk).logged clock).2.accepts = c.errorsAccept := by
  unfold Performance.logged
  split
  · exact perform_accepts i c disk
  · exact (writeAll_accepts _ _).trans (perform_accepts i c disk)

/-! ## The problem of a run -/

/-- The first problem that a run meets. -/
def Invocation.problem? : Option Problem :=
  (printed (c.style i.common) c.outputFault clock.elapsedMs (i.perform c disk).answer).2

/-- The exit code is that of the problem if it can be told. -/
theorem exitCode_run : (i.run c clock disk).exitCode =
    match i.problem? c clock disk with
    | none => 0
    | some problem =>
      if c.errorsAccept then problem.exitCodeIn c.aborts else panicCode c.aborts := by
  have haccepts := logged_accepts i c clock disk
  have hcode : (i.run c clock disk).exitCode =
      (told c.aborts ((i.perform c disk).logged clock).2 (i.problem? c clock disk)).1 := rfl
  rw [hcode]
  cases i.problem? c clock disk with
  | none => rfl
  | some problem => simp only [told, put_arrives, haccepts]

/-! ## How a run can come out -/

/-- Whether a command is carried out and its answer has this text. -/
def Invocation.Answers (a : Answer) (text : String) : Prop :=
  (i.perform c disk).answer = .ok a ∧ a.text (c.style i.common) clock.elapsedMs = .ok text

/-- Whether a command is not carried out because of this failure. -/
def Invocation.FailsWith (fault : Error) : Prop :=
  (i.perform c disk).answer = .error (.failed fault)

/-- Whether the settings of a run are these. -/
def Invocation.Loads (config : Config) : Prop :=
  Config.load c.environment disk i.common.config = .ok config

/-- Whether a text reaches the reader. To print nothing for people never fails. -/
def Circumstances.Prints (mode : Mode) (text : String) : Prop :=
  c.outputFault = none ∨ mode = .human ∧ text = ""

/-- The command was carried out, and if it was a replay no statement was refused. -/
def Invocation.Succeeds : Prop :=
  ∃ a text, i.Answers c clock disk a text ∧ c.Prints (a.modeIn (c.style i.common)) text ∧
    ∀ log report, a = .replayed log report → report.failures = []

/-- A replay completed, but statements were refused. -/
def Invocation.FallsShort : Prop :=
  ∃ log report text, i.Answers c clock disk (.replayed log report) text ∧
    c.Prints (c.style i.common).mode text ∧ report.status = .completed ∧ report.failures ≠ []

/-- The command failed because of its input. -/
def Invocation.Rejected : Prop := ∃ fault, i.FailsWith c disk fault ∧ fault.IsInput

/-- The command failed because of the connection or a file. -/
def Invocation.Broken : Prop :=
  ∃ fault, i.FailsWith c disk fault ∧ (fault.IsConnection ∨ fault.IsIo)

/-- What the command came to has no form as data because of a path that is no text. -/
def Invocation.LacksData : Prop :=
  (c.style i.common).mode = .json ∧
    ((i.command = .configShow ∧ ∃ config, i.Loads c disk config ∧ config.HasUnreadablePath) ∨
      ∃ summary, (i.perform c disk).answer = .ok (.generated summary) ∧ summary.path.text? = none)

/-- The settings to be shown have no form as a configuration file. -/
def Invocation.LacksFile : Prop :=
  (c.style i.common).mode = .human ∧ i.command = .configShow ∧
    ∃ config, i.Loads c disk config ∧ (config.HasUnreadablePath ∨ config.HasHugeNumber)

/-- Data cannot be printed, and is too long for that to be noticed only at its end. -/
def Invocation.CutShort : Prop :=
  c.outputFault.isSome ∧ ∃ a text, i.Answers c clock disk a text ∧
    a.modeIn (c.style i.common) = .json ∧ outputBuffer + 1 < text.utf8ByteSize

/-- Data cannot be printed, and is so short that this is noticed at its end. -/
def Invocation.HeldBack : Prop :=
  c.outputFault.isSome ∧ ∃ a text, i.Answers c clock disk a text ∧
    a.modeIn (c.style i.common) = .json ∧ text.utf8ByteSize ≤ outputBuffer + 1

/-- Lines for people cannot be printed. -/
def Invocation.Unheard : Prop :=
  c.outputFault.isSome ∧
    ((∃ fault, (i.perform c disk).answer = .error (.unprintable fault)) ∨
      ∃ a text, i.Answers c clock disk a text ∧
        a.modeIn (c.style i.common) = .human ∧ text ≠ "")

variable {i c clock disk} {a : Answer} {text : String} {problem : Problem} {config : Config}
  {summary : Weights.Summary} {log : Path} {report : Report}

/-! ## From the answer to the problem -/

/-- An answer has no text only where its data or the file it would be has no written form. -/
theorem text_eq_error (hanswer : (i.perform c disk).answer = .ok a)
    (h : a.text (c.style i.common) clock.elapsedMs = .error problem) :
    i.LacksData c disk ∨ i.LacksFile c disk := by
  have hanswered := answered_of_perform hanswer
  unfold Answer.text at h
  cases hanswered with
  | generated summary =>
    cases hmode : (c.style i.common).mode with
    | human =>
      simp only [Answer.modeIn, hmode, Answer.lines] at h
      cases h
    | json =>
      refine Or.inl ⟨hmode, Or.inr ⟨summary, hanswer, ?_⟩⟩
      simp only [Answer.modeIn, hmode, map_eq_error_iff, Answer.document, bind_eq_error_iff] at h
      cases hpath : summary.path.text? with
      | none => rfl
      | some path =>
        simp only [Weights.Summary.document?, hpath, Option.map_some, Answer.written] at h
        rcases h with h | ⟨_, -, h⟩
        all_goals cases h
  | @settings config hcommand hload =>
    cases hmode : (c.style i.common).mode with
    | human =>
      simp only [Answer.modeIn, hmode, map_eq_error_iff, Answer.lines] at h
      cases hfile : config.fileText with
      | error fault =>
        exact Or.inr ⟨hmode, hcommand, config, hload, Config.fileText_eq_error_iff.1 ⟨fault, hfile⟩⟩
      | ok lines =>
        simp only [hfile] at h
        cases h
    | json =>
      refine Or.inl ⟨hmode, Or.inl ⟨hcommand, config, hload, Config.document?_eq_none_iff.1 ?_⟩⟩
      simp only [Answer.modeIn, hmode, map_eq_error_iff, Answer.document, bind_eq_error_iff] at h
      cases hdocument : config.document? with
      | none => rfl
      | some d =>
        simp only [hdocument, Answer.written] at h
        rcases h with h | ⟨_, -, h⟩
        all_goals cases h
  | _ =>
    cases hmode : (c.style i.common).mode
    all_goals
      simp only [Answer.modeIn, hmode, Answer.lines, Answer.document] at h
      cases h

theorem problem?_of_error (h : (i.perform c disk).answer = .error problem) :
    i.problem? c clock disk = some problem := by
  simp only [Invocation.problem?, printed, h]

theorem problem?_of_unwarned (h : i.Unwarned c disk) :
    i.problem? c clock disk = some .unwarned :=
  problem?_of_error (by rw [perform_of_unwarned h]; rfl)

/-- A problem that is met if a run can be warned tells the exit code.  If the run cannot, the error
stream takes nothing, and the exit code is the same as for any other problem. -/
theorem exitCode_of_problem (h : i.warns c disk = true → i.problem? c clock disk = some problem) :
    (i.run c clock disk).exitCode =
      if c.errorsAccept then problem.exitCodeIn c.aborts else panicCode c.aborts := by
  rw [exitCode_run]
  cases hwarns : i.warns c disk with
  | true => rw [h hwarns]
  | false => simp only [problem?_of_unwarned hwarns, accepts_of_unwarned hwarns, Bool.false_eq_true,
      if_false]

theorem problem?_of_answers (h : i.Answers c clock disk a text) :
    i.problem? c clock disk =
      (c.outputFault.bind (outputProblem? (a.modeIn (c.style i.common)) · text)).or a.problem? := by
  simp only [Invocation.problem?, printed, h.1, h.2]
  cases c.outputFault <;> rfl

theorem bind_outputProblem?_of_prints {mode : Mode} (h : c.Prints mode text) :
    c.outputFault.bind (outputProblem? mode · text) = none := by
  rcases h with h | ⟨rfl, rfl⟩
  · rw [h, Option.bind_none]
  · cases c.outputFault <;> rfl

theorem problem?_of_prints (h : i.Answers c clock disk a text)
    (hprints : c.Prints (a.modeIn (c.style i.common)) text) :
    i.problem? c clock disk = a.problem? := by
  rw [problem?_of_answers h, bind_outputProblem?_of_prints hprints, Option.none_or]

theorem problem?_of_succeeds (h : i.Succeeds c clock disk) : i.problem? c clock disk = none := by
  obtain ⟨a, text, hanswers, hprints, hclean⟩ := h
  rw [problem?_of_prints hanswers hprints]
  cases a with
  | replayed log report => simp [Answer.problem?, Report.isClean, hclean log report rfl]
  | _ => rfl

theorem problem?_of_fallsShort (h : i.FallsShort c clock disk) :
    ∃ failed attempted, i.problem? c clock disk = some (.refused failed attempted) := by
  obtain ⟨log, report, text, hanswers, hprints, -, hfailures⟩ := h
  rw [problem?_of_prints hanswers hprints]
  simp [Answer.problem?, Report.isClean, hfailures]

theorem answer_of_loads (hwarns : i.warns c disk = true) (hcommand : i.command = .configShow)
    (hload : i.Loads c disk config) : (i.perform c disk).answer = .ok (.settings config) := by
  rw [answer_of_warns hwarns]
  obtain ⟨common, command⟩ := i
  cases hcommand
  simp only [Invocation.carryOut, Performance.plain, show Config.load _ _ _ = _ from hload]
  rfl

theorem problem?_of_text_eq_error (hanswer : (i.perform c disk).answer = .ok a)
    (h : a.text (c.style i.common) clock.elapsedMs = .error problem) :
    i.problem? c clock disk = some problem := by
  simp only [Invocation.problem?, printed, hanswer, h]

theorem problem?_of_lacksData (hwarns : i.warns c disk = true) (h : i.LacksData c disk) :
    i.problem? c clock disk = some (.unserializable Config.unwritablePath) := by
  obtain ⟨hmode, ⟨hcommand, config, hload, hpath⟩ | ⟨summary, hanswer, hpath⟩⟩ := h
  · refine problem?_of_text_eq_error (answer_of_loads hwarns hcommand hload) ?_
    simp only [Answer.text, Answer.modeIn, hmode, Answer.document,
      Config.document?_eq_none_iff.2 hpath, Answer.written]
    rfl
  · refine problem?_of_text_eq_error hanswer ?_
    simp only [Answer.text, Answer.modeIn, hmode, Answer.document, Weights.Summary.document?, hpath,
      Option.map_none, Answer.written]
    rfl

theorem problem?_of_lacksFile (clock : Clock) (hwarns : i.warns c disk = true)
    (h : i.LacksFile c disk) :
    ∃ fault, i.problem? c clock disk = some (.unprintableSettings fault) := by
  obtain ⟨hmode, hcommand, config, hload, hunwritable⟩ := h
  obtain ⟨fault, hfile⟩ := Config.fileText_eq_error_iff.2 hunwritable
  refine ⟨fault, problem?_of_text_eq_error (answer_of_loads hwarns hcommand hload) ?_⟩
  simp only [Answer.text, Answer.modeIn, hmode, Answer.lines, hfile]
  rfl

theorem problem?_of_unhashed (hwarns : i.warns c disk = true) (h : i.Unhashed c disk) :
    i.problem? c clock disk = some (.failed Config.noCanonical) := by
  obtain ⟨hcommand, config, hload, hpath⟩ := h
  refine problem?_of_error ?_
  rw [answer_of_warns hwarns]
  obtain ⟨common, command⟩ := i
  cases hcommand
  have hhash : config.stableHash = .error Config.noCanonical := by
    rw [Config.stableHash, Config.canonical?, Config.document?_eq_none_iff.2 hpath, Option.map_none]
  simp only [Invocation.carryOut, Performance.plain, validateSettings,
    show Config.load _ _ _ = _ from hload, bind, Except.bind, hhash]
  rfl

theorem problem?_of_cutShort (h : i.CutShort c clock disk) :
    ∃ details, i.problem? c clock disk = some (.unserializable details) := by
  obtain ⟨hfault, a, text, hanswers, hmode, hlong⟩ := h
  obtain ⟨fault, hfault⟩ := Option.isSome_iff_exists.1 hfault
  refine ⟨fault.message, ?_⟩
  rw [problem?_of_answers hanswers, hfault, Option.bind_some, hmode, outputProblem?,
    if_neg (by omega), Option.some_or]

theorem problem?_of_heldBack (h : i.HeldBack c clock disk) :
    ∃ fault, i.problem? c clock disk = some (.unwritable fault) := by
  obtain ⟨hfault, a, text, hanswers, hmode, hshort⟩ := h
  obtain ⟨fault, hfault⟩ := Option.isSome_iff_exists.1 hfault
  refine ⟨fault, ?_⟩
  rw [problem?_of_answers hanswers, hfault, Option.bind_some, hmode, outputProblem?,
    if_pos hshort, Option.some_or]

theorem problem?_of_unheard (h : i.Unheard c clock disk) :
    ∃ fault, i.problem? c clock disk = some (.unprintable fault) := by
  obtain ⟨hfault, ⟨fault, hanswer⟩ | ⟨a, text, hanswers, hmode, htext⟩⟩ := h
  · exact ⟨fault, problem?_of_error hanswer⟩
  · obtain ⟨fault, hfault⟩ := Option.isSome_iff_exists.1 hfault
    refine ⟨fault, ?_⟩
    rw [problem?_of_answers hanswers, hfault, Option.bind_some, hmode, outputProblem?,
      if_neg (by simpa using htext), Option.some_or]

/-! ## The exit code of each way -/

theorem exitCode_of_succeeds (h : i.Succeeds c clock disk) :
    (i.run c clock disk).exitCode = 0 := by
  rw [exitCode_run, problem?_of_succeeds h]

theorem exitCode_of_fallsShort (h : i.FallsShort c clock disk) :
    (i.run c clock disk).exitCode = if c.errorsAccept then 4 else panicCode c.aborts := by
  obtain ⟨_, _, hproblem⟩ := problem?_of_fallsShort h
  exact exitCode_of_problem fun _ => hproblem

theorem exitCode_of_rejected (h : i.Rejected c disk) :
    (i.run c clock disk).exitCode = if c.errorsAccept then 1 else panicCode c.aborts := by
  obtain ⟨fault, hfault, hinput⟩ := h
  have hcode : (Problem.failed fault).exitCodeIn c.aborts = 1 :=
    if_pos (Error.isUserError_iff.2 hinput)
  rw [exitCode_of_problem fun _ => problem?_of_error hfault, hcode]

theorem exitCode_of_broken (h : i.Broken c disk) :
    (i.run c clock disk).exitCode = if c.errorsAccept then 2 else panicCode c.aborts := by
  obtain ⟨fault, hfault, hkind⟩ := h
  have huser : fault.isUserError = false :=
    hkind.elim Error.IsConnection.isUserError Error.IsIo.isUserError
  have hcode : (Problem.failed fault).exitCodeIn c.aborts =
      if fault.isUserError then 1 else 2 := rfl
  rw [exitCode_of_problem fun _ => problem?_of_error hfault, hcode, huser]
  rfl

theorem exitCode_of_lacksData (h : i.LacksData c disk) :
    (i.run c clock disk).exitCode = if c.errorsAccept then 3 else panicCode c.aborts :=
  exitCode_of_problem fun hwarns => problem?_of_lacksData hwarns h

theorem exitCode_of_lacksFile (h : i.LacksFile c disk) :
    (i.run c clock disk).exitCode = if c.errorsAccept then 2 else panicCode c.aborts := by
  cases hwarns : i.warns c disk with
  | true =>
    obtain ⟨_, hproblem⟩ := problem?_of_lacksFile clock hwarns h
    exact exitCode_of_problem fun _ => hproblem
  | false =>
    rw [exitCode_of_problem fun _ => problem?_of_unwarned hwarns, accepts_of_unwarned hwarns]
    rfl

theorem exitCode_of_unhashed (h : i.Unhashed c disk) :
    (i.run c clock disk).exitCode = if c.errorsAccept then 2 else panicCode c.aborts :=
  exitCode_of_problem fun hwarns => problem?_of_unhashed hwarns h

theorem exitCode_of_cutShort (h : i.CutShort c clock disk) :
    (i.run c clock disk).exitCode = if c.errorsAccept then 3 else panicCode c.aborts := by
  obtain ⟨_, hproblem⟩ := problem?_of_cutShort h
  exact exitCode_of_problem fun _ => hproblem

theorem exitCode_of_heldBack (h : i.HeldBack c clock disk) :
    (i.run c clock disk).exitCode = if c.errorsAccept then 2 else panicCode c.aborts := by
  obtain ⟨_, hproblem⟩ := problem?_of_heldBack h
  exact exitCode_of_problem fun _ => hproblem

theorem exitCode_of_unheard (h : i.Unheard c clock disk) :
    (i.run c clock disk).exitCode = panicCode c.aborts := by
  obtain ⟨_, hproblem⟩ := problem?_of_unheard h
  rw [exitCode_of_problem fun _ => hproblem, Problem.exitCodeIn, Problem.panics, if_pos rfl,
    ite_self]

theorem exitCode_of_unwarned (h : i.Unwarned c disk) :
    (i.run c clock disk).exitCode = panicCode c.aborts := by
  rw [exitCode_of_problem fun _ => problem?_of_unwarned h, Problem.exitCodeIn, Problem.panics,
    if_pos rfl, ite_self]

/-! ## All ways -/

/-- A run whose answer has a text ends well, with statements refused, or unprinted. -/
theorem outcomes_of_answers (h : i.Answers c clock disk a text) :
    i.Succeeds c clock disk ∨ i.FallsShort c clock disk ∨ i.CutShort c clock disk ∨
      i.HeldBack c clock disk ∨ i.Unheard c clock disk := by
  by_cases hprints : c.Prints (a.modeIn (c.style i.common)) text
  · by_cases hclean : ∀ log report, a = .replayed log report → report.failures = []
    · exact Or.inl ⟨a, text, h, hprints, hclean⟩
    · push Not at hclean
      obtain ⟨log, report, rfl, hfailures⟩ := hclean
      cases answered_of_perform h.1 with
      | replayed hrun =>
        exact Or.inr (Or.inl ⟨_, report, text, h, hprints, completed_of_run hrun hfailures,
          hfailures⟩)
  · rw [Circumstances.Prints, not_or, not_and, ← ne_eq, ← Option.isSome_iff_ne_none] at hprints
    obtain ⟨hfault, hhuman⟩ := hprints
    cases hmode : a.modeIn (c.style i.common) with
    | human => exact Or.inr (Or.inr (Or.inr (Or.inr
        ⟨hfault, Or.inr ⟨a, text, h, hmode, hhuman hmode⟩⟩)))
    | json =>
      by_cases hlong : outputBuffer + 1 < text.utf8ByteSize
      · exact Or.inr (Or.inr (Or.inl ⟨hfault, a, text, h, hmode, hlong⟩))
      · exact Or.inr (Or.inr (Or.inr (Or.inl ⟨hfault, a, text, h, hmode, by omega⟩)))

/-- A run comes out in one of these ways. -/
theorem outcomes (i : Invocation) (c : Circumstances) (clock : Clock) (disk : Disk) :
    i.Succeeds c clock disk ∨ i.FallsShort c clock disk ∨ i.Rejected c disk ∨ i.Broken c disk ∨
      i.LacksData c disk ∨ i.LacksFile c disk ∨ i.Unhashed c disk ∨ i.CutShort c clock disk ∨
      i.HeldBack c clock disk ∨ i.Unheard c clock disk ∨ i.Unwarned c disk := by
  cases hanswer : (i.perform c disk).answer with
  | error problem =>
    rcases answer_eq_error hanswer with ⟨fault, rfl, hinput | hbroken⟩ | ⟨-, hunhashed⟩ |
      ⟨fault, rfl, hfault⟩ | hunwarned
    · have hrejected : i.Rejected c disk := ⟨fault, hanswer, hinput⟩
      simp only [hrejected, true_or, or_true]
    · have hbroken : i.Broken c disk := ⟨fault, hanswer, hbroken⟩
      simp only [hbroken, true_or, or_true]
    · simp only [hunhashed, true_or, or_true]
    · have hunheard : i.Unheard c clock disk :=
        ⟨Option.isSome_iff_exists.2 ⟨fault, hfault⟩, Or.inl ⟨fault, hanswer⟩⟩
      simp only [hunheard, true_or, or_true]
    · simp only [hunwarned, or_true]
  | ok a =>
    cases htext : a.text (c.style i.common) clock.elapsedMs with
    | error problem =>
      rcases text_eq_error hanswer htext with hlacks | hlacks
      all_goals simp only [hlacks, true_or, or_true]
    | ok text =>
      rcases outcomes_of_answers ⟨hanswer, htext⟩ with h | h | h | h | h
      all_goals simp only [h, true_or, or_true]

theorem panicCode_ne {aborts : Bool} {code : Nat} (h : code < 101) : panicCode aborts ≠ code := by
  unfold panicCode
  split <;> omega

/-- A run that ends in 1 was rejected. -/
theorem rejected_of_exitCode_eq_one (h : (i.run c clock disk).exitCode = 1) :
    i.Rejected c disk := by
  have hpanic : panicCode c.aborts ≠ 1 := panicCode_ne (by decide)
  have hother {code : Nat} (hcode : code ≠ 1)
      (hrun : (i.run c clock disk).exitCode =
        if c.errorsAccept then code else panicCode c.aborts) : False := by
    rw [h] at hrun
    split at hrun
    · exact hcode hrun.symm
    · exact hpanic hrun.symm
  rcases outcomes i c clock disk with hway | hway | hway | hway | hway | hway | hway | hway |
    hway | hway | hway
  · exact absurd (h.symm.trans (exitCode_of_succeeds hway)) (by decide)
  · exact (hother (by decide) (exitCode_of_fallsShort hway)).elim
  · exact hway
  · exact (hother (by decide) (exitCode_of_broken hway)).elim
  · exact (hother (by decide) (exitCode_of_lacksData hway)).elim
  · exact (hother (by decide) (exitCode_of_lacksFile hway)).elim
  · exact (hother (by decide) (exitCode_of_unhashed hway)).elim
  · exact (hother (by decide) (exitCode_of_cutShort hway)).elim
  · exact (hother (by decide) (exitCode_of_heldBack hway)).elim
  · exact absurd ((exitCode_of_unheard hway).symm.trans h) hpanic
  · exact absurd ((exitCode_of_unwarned hway).symm.trans h) hpanic

/-- Circumstances in which the home directory is no text. -/
def foreignHome : Circumstances :=
  ⟨⟨[("HOME", [0xFF]), ("SRH_TARGET_DATA_DIR", Utf8.ofString "d")]⟩, false, none, true,
    ChaCha.Generator.ofSeed 0, false⟩

/-- A disk with a configuration file of one option. -/
def oneOption : Disk :=
  Disk.initial.place (.ofString "c.toml") (Utf8.ofString "[weights]\noptions = [\"a\"]\n")

end SqlReplay.CommandLine
