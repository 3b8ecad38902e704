import SqlReplay.Proofs.Replay.Texts
import SqlReplay.Proofs.Sql.Acting
import SqlReplay.Proofs.Sql.PlacedSession

/-!
# Sessions take texts apart

Sessions on files keep what an engine promises of texts (`textLaws`): the first statement of a line
ends with the first terminator behind it, and it is prepared at its place in the line as it is
alone.
-/

namespace SqlReplay.Sql

open Storage Replay

variable {cs : List Char}

/-! ## The first statement with what is before it -/

/-- The first statement of a text and its terminator, if it has one. -/
def endedStatement (cs : List Char) : List Stretch :=
  (fromStatement cs).takeWhile (!·.isTerminator) ++
    ((fromStatement cs).dropWhile (!·.isTerminator)).take 1

/-- What follows the terminator of the first statement. -/
def behindStatement (cs : List Char) : List Stretch :=
  ((fromStatement cs).dropWhile (!·.isTerminator)).tail

theorem endedStatement_append (cs : List Char) :
    endedStatement cs ++ behindStatement cs = fromStatement cs := by
  rw [endedStatement, behindStatement, List.append_assoc, ← List.drop_one, List.take_append_drop,
    List.takeWhile_append_dropWhile]

theorem stretches_eq_ended (cs : List Char) :
    stretches cs = (leadIn cs ++ endedStatement cs) ++ behindStatement cs := by
  rw [List.append_assoc, endedStatement_append, leadIn, fromStatement,
    List.takeWhile_append_dropWhile]

theorem isTerminator_of_mem_take {s : Stretch}
    (h : s ∈ ((fromStatement cs).dropWhile (!·.isTerminator)).take 1) : s.isTerminator = true := by
  have hhead := List.head?_dropWhile_not (!Stretch.isTerminator ·) (fromStatement cs)
  cases hrest : (fromStatement cs).dropWhile (!·.isTerminator) with
  | nil =>
    rw [hrest] at h
    cases h
  | cons r rest =>
    rw [hrest] at h hhead
    obtain rfl := List.mem_singleton.1 h
    exact (Bool.not_eq_eq_eq_not ..).1 hhead

/-- Sessions see the first terminator behind a statement as its end. -/
def fileTexts : Texts Session where
  Data := Except Error Database
  seen := Session.view
  committed s d := Session.committed d s.file
  after cs := wording (behindStatement cs)
  longest := 1000000000

theorem firstText_eq (cs : List Char) :
    fileTexts.firstText cs = wording (leadIn cs ++ endedStatement cs) := by
  have hparts : wording (leadIn cs ++ endedStatement cs) ++ wording (behindStatement cs) = cs := by
    rw [← wording_append, ← stretches_eq_ended, wording_stretches]
  have hlength := congrArg List.length hparts
  rw [List.length_append] at hlength
  have hcount : cs.length - (fileTexts.after cs).length =
      (wording (leadIn cs ++ endedStatement cs)).length := by
    rw [← hlength]
    exact Nat.add_sub_cancel ..
  rw [Texts.firstText, hcount]
  exact (congrArg (List.take _) hparts.symm).trans List.take_left

theorem stretches_firstText (cs : List Char) :
    stretches (fileTexts.firstText cs) = leadIn cs ++ endedStatement cs := by
  rw [firstText_eq]
  exact stretches_of_append_left (stretches_eq_ended cs)

theorem dropWhile_endedStatement (cs : List Char) :
    (endedStatement cs).dropWhile Stretch.isSpare = endedStatement cs := by
  have hhead := List.head?_dropWhile_not Stretch.isSpare (stretches cs)
  have happend := endedStatement_append cs
  cases hended : endedStatement cs with
  | nil => rfl
  | cons s rest =>
    rw [hended, fromStatement] at happend
    rw [← happend] at hhead
    exact List.dropWhile_cons_of_neg (Bool.eq_false_iff.1 hhead)

theorem isSpare_of_mem_leadIn {s : Stretch} (h : s ∈ leadIn cs) : s.isSpare = true :=
  List.mem_takeWhile_imp h

theorem fromStatement_firstText (cs : List Char) :
    fromStatement (fileTexts.firstText cs) = endedStatement cs := by
  rw [fromStatement, stretches_firstText,
    List.dropWhile_append_of_pos fun s hs => isSpare_of_mem_leadIn hs, dropWhile_endedStatement]

theorem takeWhile_endedStatement (cs : List Char) :
    (endedStatement cs).takeWhile (!·.isTerminator) =
      (fromStatement cs).takeWhile (!·.isTerminator) := by
  rw [endedStatement, List.takeWhile_append_of_pos fun s hs =>
    List.mem_takeWhile_imp (p := (!Stretch.isTerminator ·)) hs]
  have hnil : (((fromStatement cs).dropWhile (!·.isTerminator)).take 1).takeWhile
      (!·.isTerminator) = [] := by
    rw [List.takeWhile_eq_nil_iff]
    intro hlength
    rw [isTerminator_of_mem_take (List.get_mem _ _)]
    exact nofun
  rw [hnil, List.append_nil]

theorem firstStatement_firstText (cs : List Char) :
    firstStatement (fileTexts.firstText cs) = firstStatement cs := by
  rw [firstStatement, fromStatement_firstText, takeWhile_endedStatement, firstStatement]

theorem isIdle_firstText (cs : List Char) : isIdle (fileTexts.firstText cs) = isIdle cs := by
  rw [Bool.eq_iff_iff, isIdle, isIdle, ← firstStatement_eq_nil_iff, ← firstStatement_eq_nil_iff,
    firstStatement_firstText]

theorem statementText_firstText (cs : List Char) :
    statementText (fileTexts.firstText cs) = statementText cs := by
  rw [statementText, firstStatement_firstText, statementText]

theorem behindStatement_firstText (cs : List Char) :
    behindStatement (fileTexts.firstText cs) = [] := by
  have hshort := (List.dropWhile_suffix (!Stretch.isTerminator ·)
    (l := ((fromStatement cs).dropWhile (!·.isTerminator)).take 1)).length_le
  rw [behindStatement, fromStatement_firstText, endedStatement,
    List.dropWhile_append_of_pos fun s hs =>
      List.mem_takeWhile_imp (p := (!Stretch.isTerminator ·)) hs, ← List.length_eq_zero_iff,
    List.length_tail]
  rw [List.length_take] at hshort
  omega

theorem rdropWhile_firstStatement (cs : List Char) :
    (firstStatement cs).rdropWhile Stretch.isSpare = firstStatement cs := by
  rw [List.rdropWhile_eq_self_iff]
  intro hne hspare
  rw [Stretch.isSpare, isTerminator_of_mem_firstStatement (List.getLast_mem hne),
    Bool.or_false] at hspare
  exact List.rdropWhile_last_not _ _ hne hspare

/-- A statement alone is what is left of its text without the spare stretches at the ends. -/
theorem bare_firstText (cs : List Char) : bare (fileTexts.firstText cs) = statementText cs := by
  have hparts : endedStatement cs = firstStatement cs ++
      (((fromStatement cs).takeWhile (!·.isTerminator)).rtakeWhile Stretch.isBlank ++
        ((fromStatement cs).dropWhile (!·.isTerminator)).take 1) := by
    rw [endedStatement, firstStatement, ← List.append_assoc, List.rdropWhile_append_rtakeWhile]
  have hspare : ∀ s ∈ (((fromStatement cs).takeWhile (!·.isTerminator)).rtakeWhile
      Stretch.isBlank ++ ((fromStatement cs).dropWhile (!·.isTerminator)).take 1),
      s.isSpare = true := by
    intro s hs
    rw [Stretch.isSpare, Bool.or_eq_true]
    rcases List.mem_append.1 hs with hs | hs
    · exact .inl (List.mem_rtakeWhile_imp hs)
    · exact .inr (isTerminator_of_mem_take hs)
  have hend : (endedStatement cs).rdropWhile Stretch.isSpare = firstStatement cs := by
    rw [hparts, List.rdropWhile, List.reverse_append,
      List.dropWhile_append_of_pos fun s hs => hspare s (List.mem_reverse.1 hs)]
    exact rdropWhile_firstStatement cs
  have hfrom := fromStatement_firstText cs
  rw [fromStatement] at hfrom
  rw [bare, hfrom, hend, statementText]

theorem behindStatement_statementText (cs : List Char) :
    behindStatement (statementText cs) = [] := by
  have hended : ∀ s ∈ fromStatement (statementText cs), (!s.isTerminator) = true := by
    intro s hs
    rw [fromStatement, statementText, stretches_firstStatement] at hs
    rw [isTerminator_of_mem_firstStatement ((List.dropWhile_suffix _).subset hs)]
    rfl
  rw [behindStatement, List.dropWhile_eq_nil_iff.2 hended, List.tail_nil]

/-! ## The place of the first statement -/

/-- The place of the first statement of a text. -/
def placeIn (cs : List Char) : Place := ⟨statementStart cs, tokensAfter cs, atEnd_tokensAfter cs⟩

theorem skipTerminators_tail {ts : List Token} (h : atEnd ts = true) :
    skipTerminators ts.tail = skipTerminators ts := by
  cases ts with
  | nil => rfl
  | cons t ts =>
    have ht : t.isSymbol ";" = true := h
    exact (List.dropWhile_cons_of_pos (p := (Token.isSymbol · ";")) ht).symm

theorem isIdle_behind (cs : List Char) :
    isIdle (fileTexts.after cs) = (afterStatement cs).all Stretch.isSpare := by
  have hblank : (((fromStatement cs).takeWhile (!·.isTerminator)).rtakeWhile Stretch.isBlank).all
      Stretch.isSpare = true := by
    rw [List.all_eq_true]
    intro s hs
    rw [Stretch.isSpare, List.mem_rtakeWhile_imp hs, Bool.true_or]
  have hend : (((fromStatement cs).dropWhile (!·.isTerminator)).take 1).all Stretch.isSpare =
      true := by
    rw [List.all_eq_true]
    intro s hs
    rw [Stretch.isSpare, isTerminator_of_mem_take hs, Bool.or_true]
  have hbehind : stretches (fileTexts.after cs) = behindStatement cs :=
    stretches_of_append_right (stretches_eq_ended cs)
  rw [isIdle, hbehind, afterStatement_eq, List.all_append, hblank, Bool.true_and,
    ← List.take_append_drop 1 ((fromStatement cs).dropWhile (!·.isTerminator)), List.all_append,
    hend, Bool.true_and, List.drop_one, behindStatement]

/-- No statement is among the tokens behind the first one exactly if the text there is idle. -/
theorem isEmpty_after (cs : List Char) :
    (skipTerminators (placeIn cs).after.tail).isEmpty = isIdle (fileTexts.after cs) := by
  rw [isIdle_behind, ← skipTerminators_tokensAt, skipTerminators_tail (placeIn cs).ended]
  rfl

theorem unended_scan (h : '\x00' ∉ cs) : Unended (scan (statementText cs)) :=
  fun _ ht => not_isSymbol_of_mem_scan h ht

theorem isEmpty_scan (h : '\x00' ∉ cs) : (skipTerminators (scan cs)).isEmpty = isIdle cs := by
  rw [scan_eq_tokensAt h, skipTerminators_tokensAt, isIdle]

theorem scan_statementText_ne_nil (h : '\x00' ∉ cs) (hidle : isIdle cs = false) :
    scan (statementText cs) ≠ [] := by
  intro hnil
  have hempty : (skipTerminators (scan (statementText cs))).isEmpty = true := by
    rw [hnil]
    rfl
  rw [scan_statementText h, skipTerminators_tokensAt] at hempty
  rw [isIdle, firstStatement_eq_nil_iff.1 (firstStatement_eq_nil_of_spare hempty)] at hidle
  cases hidle

/-- The first statement of a text is prepared like the statement alone. -/
theorem Session.first_of_text (s : Session) (d : Disk) (h : '\x00' ∉ cs)
    (hidle : isIdle cs = false) :
    First (placeIn cs) (Operation.shifted (placeIn cs).start)
        (s.prepareFirst d (scan (statementText cs))).1 (s.prepareFirst d (scan cs)).1 ∧
      (s.prepareFirst d (scan cs)).2 = (s.prepareFirst d (scan (statementText cs))).2 := by
  have hscan : s.prepareFirst d (scan cs) =
      s.prepareFirst d ((placeIn cs).put (scan (statementText cs))) :=
    prepareFirst_congr (skipTerminators_scan h)
  rw [hscan]
  exact first_prepareFirst (unended_scan h) (scan_statementText_ne_nil h hidle)

/-! ## Failures at a place -/

theorem code?_shifted (start : Nat) (fault : Error) :
    (fault.shifted start).code? = fault.code? := by
  cases fault with
  | noSuchColumn name offset => cases offset <;> rfl
  | _ => rfl

theorem offset?_shifted (start : Nat) (fault : Error) :
    (fault.shifted start).offset? = fault.offset?.map (start + ·) := by
  cases fault <;> rfl

/-- A failure that has a place has no kind. -/
theorem code?_of_offset? {fault : Error} {offset : Nat} (h : fault.offset? = some offset) :
    fault.code? = none := by
  cases fault with
  | noSuchColumn name offset =>
    cases h
    rfl
  | _ => first | rfl | cases h

theorem toldAlike_shifted (alone line : String) (start : Nat) (fault : Error) :
    ToldAlike alone line start ⟨fault.code?, fault.report alone⟩
      ⟨(fault.shifted start).code?, (fault.shifted start).report line⟩ := by
  rw [code?_shifted, Error.report, Error.report, offset?_shifted, Session.message_shifted]
  cases hoffset : fault.offset? with
  | none => exact .same _
  | some offset =>
    rw [code?_of_offset? hoffset]
    exact .placed fault.message offset

/-- The failure to prepare a statement alone, as it is told of a text in which it has a place. -/
theorem toldAlike_at (alone line : String) (p : Place) (fault : Error) :
    ToldAlike alone line p.start ⟨fault.code?, fault.report alone⟩
      ⟨(fault.at p).code?, (fault.at p).report line⟩ := by
  by_cases hgoes : fault = .incomplete
  · subst hgoes
    have hended := p.ended
    show ToldAlike alone line p.start _ ⟨(stuckAt p.after).code?, (stuckAt p.after).report line⟩
    cases hafter : p.after with
    | nil => exact .same _
    | cons t rest =>
      rw [hafter] at hended
      have ht : t.isSymbol ";" = true := hended
      have hkind : t.kind = .symbol := kind_of_terminator ht
      have hlexeme : t.spelling = ";" := by
        rw [Token.isSymbol, Bool.and_eq_true] at ht
        rw [Token.spelling, of_decide_eq_true ht.2, String.ofList_toList]
      rw [stuckAt, if_neg (by rw [hkind]; decide), hlexeme]
      exact .ended t.offset
  · rw [Error.at_of_ne hgoes]
    exact toldAlike_shifted alone line p.start fault

/-! ## The promises -/

namespace Session

variable {s : Session} {d : Disk} {line : String}

theorem run_shifted (start : Nat) (o : Operation) (s : Session) (d : Disk) :
    Engine.run (o.shifted start) s d = Engine.run o s d := by
  rw [run_eq, run_eq]
  have hran : Ran start (s.step d o) (s.step d (o.shifted start)) := s.step_shifted d o
  generalize s.step d o = x at hran
  generalize s.step d (o.shifted start) = y at hran
  cases hran with
  | same => rfl
  | failed fault s d =>
    show (_, _) = (_, _)
    rw [Except.mapError, code?_shifted, message_shifted]
    rfl

theorem unmoved_next (b : Script) (s : Session) (d : Disk) :
    fileTexts.Unmoved s d (Engine.next (σ := Session) b s d).2.1
      (Engine.next (σ := Session) b s d).2.2 := by
  have hnext : ∃ x, Engine.next b s d = (x, (s.prepareFirst d b.tokens).2, d) := by
    show ∃ x, prepareNext b s d = _
    unfold prepareNext
    rcases s.prepareFirst d b.tokens with ⟨_ | _ | ⟨o, rest⟩, s'⟩ <;> exact ⟨_, rfl⟩
  obtain ⟨x, hx⟩ := hnext
  rw [hx, s.relearned_prepareFirst d b.tokens]
  exact ⟨rfl, rfl, rfl⟩

theorem next_of_isIdle (hreads : fileTexts.Reads line.toList) (hidle : isIdle line.toList = true) :
    Engine.next (Engine.batch line) s d = (.ok none, s, d) := by
  rw [next_batch, prepareFirst_of_isEmpty ((isEmpty_scan hreads.nul).trans hidle)]

theorem isEmpty_of_prepareNext {b : Script} (h : (prepareNext b s d).1 = .ok none) :
    (skipTerminators b.tokens).isEmpty = true := by
  apply isEmpty_of_prepareFirst (s := s) (d := d)
  unfold prepareNext at h
  rcases hx : s.prepareFirst d b.tokens with ⟨_ | _ | ⟨o, rest⟩, s'⟩
  · rw [hx] at h
    cases h
  · rfl
  · rw [hx] at h
    cases h

theorem isIdle_of_next (hreads : fileTexts.Reads line.toList)
    (h : (Engine.next (Engine.batch line) s d).1 = .ok none) : isIdle line.toList = true := by
  rw [← isEmpty_scan hreads.nul]
  exact isEmpty_of_prepareNext h

/-- The place where a line goes on after its first statement. -/
theorem rest_eq {o : Operation} {rest : Script} {s' : Session} {d' : Disk}
    (hreads : fileTexts.Reads line.toList)
    (h : Engine.next (Engine.batch line) s d = (.ok (some (o, rest)), s', d')) :
    rest.tokens = (placeIn line.toList).after.tail := by
  have hidle : isIdle line.toList = false := by
    rw [Bool.eq_false_iff]
    intro hidle
    rw [next_of_isIdle hreads hidle] at h
    cases h
  obtain ⟨hfirst, -⟩ := s.first_of_text d hreads.nul hidle
  rw [next_batch] at h
  rcases hx : s.prepareFirst d (scan line.toList) with ⟨_ | _ | ⟨o', rest'⟩, s''⟩ <;> rw [hx] at h
  · cases h
  · cases h
  · cases h
    rw [hx] at hfirst
    dsimp only at hfirst ⊢
    generalize (s.prepareFirst d (scan (statementText line.toList))).1 = x at hfirst
    cases hfirst with
    | found => rfl

/-- A line is prepared as its first statement alone, at its place in the line. -/
theorem preparedAlike (s : Session) (d : Disk) (hnul : '\x00' ∉ line.toList)
    (hidle : isIdle line.toList = false) :
    PreparedAlike (String.ofList (statementText line.toList)) line (statementStart line.toList)
      (Engine.next (Engine.batch (String.ofList (statementText line.toList))) s d)
      (Engine.next (Engine.batch line) s d) := by
  obtain ⟨hfirst, hsame⟩ := s.first_of_text d hnul hidle
  rw [next_batch, next_batch, String.toList_ofList]
  rcases hx : s.prepareFirst d (scan (statementText line.toList)) with ⟨x, s'⟩
  rcases hy : s.prepareFirst d (scan line.toList) with ⟨y, s''⟩
  rw [hx, hy] at hfirst hsame
  dsimp only at hfirst hsame
  subst hsame
  cases hfirst with
  | found o => exact .found _ _ _ _ _ _ fun s d => run_shifted _ o s d
  | refused fault => exact .refused _ _ _ _ (toldAlike_at _ line (placeIn line.toList) fault)

/-- What is behind the first statement is not read to prepare it. -/
theorem next_of_firstText {o : Engine.Prepared Session} {rest : Engine.Batch Session}
    {s' : Session} {d' : Disk} (hreads : fileTexts.Reads line.toList)
    (h : Engine.next (Engine.batch (fileTexts.first line)) s d = (.ok (some (o, rest)), s', d')) :
    ∃ o' rest', Engine.next (Engine.batch line) s d = (.ok (some (o', rest')), s', d') ∧
      ∀ (s : Session) d, Engine.run o' s d = Engine.run o s d := by
  have hfirst : (fileTexts.first line).toList = fileTexts.firstText line.toList :=
    String.toList_ofList
  have hidle : isIdle (fileTexts.first line).toList = false := by
    rw [Bool.eq_false_iff]
    intro hidle
    rw [next_of_isIdle hreads.first hidle] at h
    cases h
  have halike := preparedAlike s d hreads.first.nul hidle
  rw [hfirst, isIdle_firstText] at hidle
  have halike' := preparedAlike s d hreads.nul hidle
  rw [hfirst, statementText_firstText] at halike
  rw [h] at halike
  generalize Engine.next (Engine.batch (String.ofList (statementText line.toList))) s d = x
    at halike halike'
  generalize Engine.next (Engine.batch line) s d = y at halike'
  cases halike with
  | found p _ rest₀ _ _ _ hrun =>
    cases halike' with
    | found _ p' _ rest' _ _ hrun' =>
      exact ⟨p', rest', rfl, fun s d => (hrun' s d).trans (hrun s d).symm⟩

end Session

/-- Sessions on files keep what an engine promises of texts. -/
theorem textLaws : TextLaws fileTexts where
  next_unmoved := Session.unmoved_next
  next_of_idle _ _ hreads hidle := Session.next_of_isIdle hreads hidle
  idle_of_next hreads h := Session.isIdle_of_next hreads h
  rest_of_idle {line s d p rest s' d'} hreads h hidle := by
    have hempty := (isEmpty_after line.toList).trans hidle
    rw [← Session.rest_eq hreads h] at hempty
    show Session.prepareNext rest s' d' = _
    rw [Session.prepareNext, Session.prepareFirst_of_isEmpty hempty]
  idle_of_rest {line s d p rest s' d'} hreads h hnone := by
    rw [← isEmpty_after, ← Session.rest_eq hreads h]
    exact Session.isEmpty_of_prepareNext hnone
  after_of_idle {cs} hidle := by
    have hnil : fromStatement cs = [] :=
      List.dropWhile_eq_nil_iff.2 fun s hs => List.all_eq_true.1 hidle s hs
    show wording (behindStatement cs) = []
    rw [behindStatement, hnil]
    rfl
  after_firstText cs := congrArg wording (behindStatement_firstText cs)
  after_bare cs := by
    rw [bare_firstText]
    exact congrArg wording (behindStatement_statementText cs)
  next_of_first hreads h := Session.next_of_firstText hreads h
  next_of_alone {line} s d hreads hidle _ := by
    rw [Texts.alone, bare_firstText]
    exact Session.preparedAlike s d hreads.nul hidle

end SqlReplay.Sql
