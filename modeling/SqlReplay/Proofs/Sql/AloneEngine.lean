import SqlReplay.Proofs.Replay.Transactions
import SqlReplay.Proofs.Sql.AloneLine
import SqlReplay.Proofs.Sql.Tracks
import SqlReplay.Proofs.Sql.Vacancy
import SqlReplay.Proofs.Sql.Words
import SqlReplay.Proofs.Storage.Beside

/-!
# Transactions of sessions

Sessions keep the promises of an engine on transactions (`transactionLaws`): what is seen by a
session that is alone with its file is its database, and what is committed is what is in the file.
A line is steady that begins with no word of a transaction and attaches nothing
(`steadyLine_of_words`).
-/

namespace SqlReplay.Sql

open Storage Replay

/-! ## What is seen and what is committed -/

/-- Whether a session that is alone has nothing but its database. -/
structure Solo.Plain (a : Solo) : Prop where
  pageLimit : a.pageLimit = none
  attached : a.attached = []
  working : a.autocommit = true → a.working = none

/-- What is seen by a session that is alone with its file, and what is committed to the file. -/
def soloObserver : Observer Session where
  Seen := Database
  Content := Option (Except Error Database)
  seen s d := (s.view d).toOption.getD .empty
  content p d := committedAt d p
  stored db := some (.ok db)
  fresh := .empty
  Alone p s d := ∃ (w : Site) (a : Solo), w.path = p ∧ w.Mirrors a s d ∧ a.Plain

section Sees

variable {p : Path} {auto : Bool} {db : Database} {s : Session} {d : Disk}

theorem seen_of_mirrors {w : Site} {a : Solo} (h : w.Mirrors a s d) :
    soloObserver.seen s d = a.view := by
  simp only [soloObserver, h.view, Except.toOption, Option.getD_some]

/-- What a session sees that is alone. -/
theorem sees_iff : soloObserver.Sees p auto db s d ↔
    ∃ (w : Site) (a : Solo), w.path = p ∧ w.Mirrors a s d ∧ a.Plain ∧ a.autocommit = auto ∧
      a.view = db := by
  constructor
  · rintro ⟨⟨w, a, hpath, hmirrors, hplain⟩, hauto, hseen⟩
    exact ⟨w, a, hpath, hmirrors, hplain, hmirrors.autocommit.symm.trans hauto,
      (seen_of_mirrors hmirrors).symm.trans hseen⟩
  · rintro ⟨w, a, hpath, hmirrors, hplain, hauto, hview⟩
    exact ⟨⟨w, a, hpath, hmirrors, hplain⟩, hmirrors.autocommit.trans hauto,
      (seen_of_mirrors hmirrors).trans hview⟩

/-- A session leaves what is in its file as long as it does not commit. -/
theorem keeps_of_kept {w : Site} {stored stored' : Option Database} {e : Disk}
    (hd : w.Kept stored d) (hs : w.Serves s) (he : w.Kept stored' e) (hsame : stored' = stored) :
    soloObserver.Keeps w.path (soloObserver.content w.path d) s e := by
  subst hsame
  exact ⟨he.committedAt.trans hd.committedAt.symm,
    (he.close hs).committedAt.trans hd.committedAt.symm⟩

end Sees

/-! ## New files -/

/-- Where no file of a database is, there is none to be opened, nor its journal. -/
theorem exists_vacancy {d : Disk} {p : Path} (hd : d.Numbered) (h : AllVacant d p) :
    ∃ name dir beside, Vacancy d p name dir beside := by
  have hjournal : p.withSuffix "-journal" ∈ filesOf p :=
    List.mem_cons_of_mem _ (List.mem_map_of_mem (by decide))
  obtain ⟨⟨place, hseat, hnode⟩, hslash⟩ := h p (self_mem_filesOf p)
  obtain ⟨⟨beside, hbeside, hvacant⟩, hslash'⟩ := h _ hjournal
  obtain ⟨-, name, dir, rfl, -⟩ := Disk.name_of_seat? hseat
  refine ⟨name, dir, beside, hd, hseat, hbeside, hslash, hslash', ?_, hnode, hvacant⟩
  rintro rfl
  exact Disk.seat?_withSuffix_ne (by decide) (by decide) hslash hseat hbeside

/-! ## What a line commits -/

section Lines

variable {offers : String → Offer} {a : Solo}

theorem stored_change (hauto : a.autocommit = false) (c : Change) :
    (a.change c).2.stored = a.stored := by
  unfold Solo.change
  dsimp only
  cases a.begun.outcome a.begun.view c with
  | error fault =>
    simp only [Solo.givenUp, Solo.autocommit_holding, Solo.autocommit_begun, hauto,
      Bool.false_eq_true, if_false, Solo.stored_holding, Solo.stored_begun]
  | ok changed =>
    simp only [Solo.settled, Solo.autocommit_holding, Solo.autocommit_begun, hauto,
      Bool.false_eq_true, if_false, Solo.stored_holding, Solo.stored_begun]

theorem stored_begin (mode : BeginMode) : (a.begin mode).2.stored = a.stored := by
  unfold Solo.begin
  by_cases hmode : mode = .deferred
  · simp only [hmode, if_true]
    split <;> rfl
  · simp only [hmode, if_false]
    split <;> exact a.stored_begun

theorem stored_attach (file name : String) :
    (a.attach offers file name).2.stored = a.stored := by
  unfold Solo.attach
  split
  · rfl
  split
  · rfl
  split <;> rfl

/-- An operation in a transaction commits nothing unless it ends the transaction. -/
theorem stored_step {operation : Operation} (hauto : a.autocommit = false)
    (h : (∃ fault, (a.step offers operation).1 = .error fault) ∨
      (a.step offers operation).2.autocommit = false) :
    (a.step offers operation).2.stored = a.stored := by
  cases operation with
  | begin mode => exact stored_begin mode
  | commit =>
    simp only [Solo.step, hauto, Bool.false_eq_true, if_false] at h
    obtain ⟨fault, hfault⟩ | hauto' := h
    · cases hfault
    · cases hauto'
  | rollback =>
    simp only [Solo.step, hauto, Bool.false_eq_true, if_false]
    rfl
  | limitPages n => rfl
  | attach file name => exact stored_attach file name
  | query reads => rfl
  | change c => exact stored_change hauto c
  | outdated writes fault => rfl

/-- A line in a transaction commits nothing unless it ends the transaction. -/
theorem stored_soloLine {line : String} (hauto : a.autocommit = false)
    (h : (∃ fault, (soloLine offers line a).1 = .error fault) ∨
      (soloLine offers line a).2.autocommit = false) :
    (soloLine offers line a).2.stored = a.stored := by
  unfold soloLine at h ⊢
  generalize a.prepare (scan line.toList) = prepared at h ⊢
  obtain fault | _ | ⟨operation, rest⟩ := prepared
  · rfl
  · rfl
  dsimp only at h ⊢
  split
  · next hrest =>
    rw [if_pos hrest] at h
    have hstep := @stored_step offers a operation hauto
    generalize a.step offers operation = got at h hstep ⊢
    obtain ⟨fault | _, b⟩ := got
    · exact hstep (.inl ⟨fault, rfl⟩)
    · exact hstep (.inr (h.resolve_left nofun))
  · rfl

end Lines

/-! ## The promises -/

section Promises

variable {p : Path} {db : Database} {s s' : Session} {d d' : Disk}

theorem sees_opening {d e : Disk} (hd : d.Numbered) (hvacant : AllVacant d p)
    (h : Engine.opening p d = (.ok s, e)) : soloObserver.Sees p true .empty s e := by
  obtain ⟨name, dir, beside, hvacancy⟩ := exists_vacancy hd hvacant
  have hopening : Engine.opening p d = Session.openingAt p d := rfl
  rw [hopening, Session.openingAt] at h
  rcases hvacancy.opening with ⟨fault, -, hopen⟩ | hopen
  · rw [hopen] at h
    cases h
  · rw [hopen] at h
    cases h
    exact sees_iff.2 ⟨hvacancy.site, Solo.fresh, rfl, hvacancy.mirrors, ⟨rfl, rfl, fun _ => rfl⟩,
      rfl, rfl⟩

theorem sees_begin (h : soloObserver.Sees p true db s d)
    (hbegin : Engine.perform "BEGIN" s d = (.ok (), s', d')) :
    soloObserver.Sees p false db s' d' ∧ d' = d := by
  obtain ⟨w, a, hpath, hmirrors, hplain, hauto, hview⟩ := sees_iff.1 h
  rw [Session.perform_begin (hmirrors.autocommit.trans hauto)] at hbegin
  cases hbegin
  exact ⟨sees_iff.2 ⟨w, { a with autocommit := false }, hpath, hmirrors.enter,
    ⟨hplain.pageLimit, hplain.attached, nofun⟩, rfl, hview⟩, rfl⟩

theorem content_of_sees (h : soloObserver.Sees p true db s d) :
    committedAt d p = some (.ok db) := by
  obtain ⟨w, a, rfl, hmirrors, hplain, hauto, hview⟩ := sees_iff.1 h
  have hcommitted : a.stored.getD .empty = db := by
    rw [← hview, Solo.view, hplain.working hauto, Option.getD_none, Solo.committed]
  rw [hmirrors.kept.committedAt, hcommitted]

theorem keeps_line (line : String) (h : soloObserver.Sees p false db s d)
    (hends : (∃ message, (Target.runLine line s d).1 = .error (.fatal message)) ∨
      Engine.autocommits (Target.runLine line s d).2.1 = false) :
    soloObserver.Keeps p (soloObserver.content p d) (Target.runLine line s d).2.1
      (Target.runLine line s d).2.2 := by
  obtain ⟨w, a, rfl, hmirrors, -, hauto, -⟩ := sees_iff.1 h
  rcases hmirrors.runLine line with ⟨hanswer, hnext⟩ | hstruck
  · refine keeps_of_kept hmirrors.kept hnext.serves hnext.kept (stored_soloLine hauto ?_)
    rw [hanswer] at hends
    exact hends.imp (fun ⟨message, hfatal⟩ => ⟨_, hfatal⟩) hnext.autocommit.symm.trans
  · exact keeps_of_kept hmirrors.kept hstruck.serves hstruck.kept rfl

theorem sees_commit (h : soloObserver.Sees p false db s d)
    (hcommit : Engine.perform "COMMIT" s d = (.ok (), s', d')) :
    soloObserver.Sees p true db s' d' := by
  obtain ⟨w, a, hpath, hmirrors, hplain, hauto, hview⟩ := sees_iff.1 h
  rw [Session.perform_commit (hmirrors.autocommit.trans hauto)] at hcommit
  have hanswers := hmirrors.toFollows.commit
  generalize s.commit d = got at hcommit hanswers
  obtain ⟨fault | _, s'', d''⟩ := got
  · cases hcommit
  · cases hcommit
    rcases hanswers with ⟨-, hnext⟩ | hstruck
    · exact sees_iff.2 ⟨w, a.commit, hpath, hnext, ⟨hplain.pageLimit, hplain.attached,
        fun _ => rfl⟩, rfl, (a.view_commit).trans hview⟩
    · obtain ⟨cause, hcause, -⟩ := hstruck.fatal
      cases hcause

theorem keeps_commit {fault : EngineFault} (h : soloObserver.Sees p false db s d)
    (hcommit : Engine.perform "COMMIT" s d = (.error fault, s', d')) :
    soloObserver.Keeps p (soloObserver.content p d) s' d' := by
  obtain ⟨w, a, rfl, hmirrors, -, hauto, -⟩ := sees_iff.1 h
  rw [Session.perform_commit (hmirrors.autocommit.trans hauto)] at hcommit
  have hanswers := hmirrors.toFollows.commit
  generalize s.commit d = got at hcommit hanswers
  obtain ⟨cause | _, s'', d''⟩ := got
  · cases hcommit
    rcases hanswers with ⟨hresult, -⟩ | hstruck
    · cases hresult
    · exact keeps_of_kept hmirrors.kept hstruck.serves hstruck.kept rfl
  · cases hcommit

/-- Sessions keep the promises of an engine on transactions. -/
theorem transactionLaws : TransactionLaws soloObserver where
  opening hd hvacant h := sees_opening hd hvacant h
  wait h hwait := by
    cases hwait
    exact h
  begin h hbegin := by
    obtain ⟨hsees, rfl⟩ := sees_begin h hbegin
    exact ⟨hsees, rfl⟩
  outside h := content_of_sees h
  isolated line h hends := keeps_line line h hends
  commit h hcommit := sees_commit h hcommit
  commit_error h hcommit := keeps_commit h hcommit
  close {p auto x s d} h := by
    obtain ⟨w, a, rfl, hmirrors, -⟩ := sees_iff.1 h
    exact (hmirrors.kept.close hmirrors.serves).committedAt.trans hmirrors.kept.committedAt.symm

end Promises

/-! ## Steady lines -/

/-- The words with which statements begin that control transactions, or that an open transaction may
keep from having an effect. -/
def transactionWords : List String :=
  ["BEGIN", "COMMIT", "END", "ROLLBACK", "SAVEPOINT", "RELEASE", "VACUUM", "PRAGMA", "ATTACH"]

section Steady

variable {a b : Solo} {line : String}

/-- What begins with no such word is prepared to a steady operation. -/
theorem isSteady_of_prepare
    (hline : ∀ word ∈ transactionWords,
      startsWithKeyword word (skipTerminators (scan line.toList)) = false)
    {operation : Operation} {rest : List Token}
    (h : a.prepare (scan line.toList) = .ok (some (operation, rest))) : operation.IsSteady := by
  obtain ⟨present, statement, schema, hread, hprepare⟩ := prepareIn_eq_ok h
  have hwords := words_of_readFirst hread
  have hno : ∀ words : List String, (∀ word ∈ words, word ∈ transactionWords) →
      words.any (startsWithKeyword · (skipTerminators (scan line.toList))) ≠ true := by
    intro words hmem hany
    obtain ⟨word, hword, hstarts⟩ := List.any_eq_true.1 hany
    rw [hline word (hmem word hword)] at hstarts
    cases hstarts
  cases prepared_of_prepare hprepare with
  | query reads => trivial
  | change c => trivial
  | begin mode => exact absurd hwords (hno ["BEGIN"] (by decide))
  | commit => exact absurd hwords (hno ["COMMIT", "END"] (by decide))
  | rollback => exact absurd hwords (hno ["ROLLBACK"] (by decide))
  | limitPages name value limit => exact absurd hwords (hno ["PRAGMA"] (by decide))
  | attach file name => exact absurd hwords (hno ["ATTACH"] (by decide))

/-- Such a line has the same answer in a transaction and outside, whatever files there are. -/
theorem soloLine_of_tracks
    (hline : ∀ word ∈ transactionWords,
      startsWithKeyword word (skipTerminators (scan line.toList)) = false)
    (h : Solo.Tracks a b) (offers offers' : String → Offer) :
    (soloLine offers line a).1 = (soloLine offers' line b).1 ∧
      Solo.Tracks (soloLine offers line a).2 (soloLine offers' line b).2 ∧
      ((soloLine offers' line b).1 ≠ .ok () → (soloLine offers' line b).2.view = b.view) := by
  unfold soloLine
  rw [h.prepare]
  cases hprepare : b.prepare (scan line.toList) with
  | error fault => exact ⟨rfl, h, fun _ => rfl⟩
  | ok prepared =>
    obtain _ | ⟨operation, rest⟩ := prepared
    · exact ⟨rfl, h, fun _ => rfl⟩
    dsimp only
    split
    · obtain ⟨hresult, htracks, hview⟩ :=
        h.step offers offers' (isSteady_of_prepare hline hprepare)
      generalize a.step offers operation = left at hresult htracks ⊢
      generalize b.step offers' operation = right at hresult htracks hview ⊢
      obtain ⟨result, a'⟩ := left
      obtain ⟨result', b'⟩ := right
      obtain rfl : result = result' := hresult
      cases result with
      | ok _ => exact ⟨rfl, htracks, fun hfail => absurd rfl hfail⟩
      | error fault => exact ⟨rfl, htracks, fun _ => hview nofun⟩
    · exact ⟨rfl, h, fun _ => rfl⟩

/-- A session in a transaction is tracked by one that has committed what it sees. -/
theorem tracks_committed (hplain : a.Plain) (hauto : a.autocommit = false) :
    Solo.Tracks a ⟨some a.view, none, true, none, []⟩ where
  inside := hauto
  outside := rfl
  working := rfl
  view := rfl
  limits := ⟨hplain.pageLimit, rfl⟩
  attached := ⟨hplain.attached, rfl⟩

section Tracks

variable {w : Site} {s : Session} {d : Disk}

theorem sees_inside (h : Solo.Tracks a b) (hmirrors : w.Mirrors a s d) :
    soloObserver.Sees w.path false a.view s d := by
  have hplain : a.Plain := ⟨h.limits.1, h.attached.1, fun hauto => by
    rw [h.inside] at hauto
    cases hauto⟩
  exact sees_iff.2 ⟨w, a, rfl, hmirrors, hplain, h.inside, rfl⟩

theorem sees_outside (h : Solo.Tracks a b) (hmirrors : w.Mirrors b s d) :
    soloObserver.Sees w.path true b.view s d :=
  sees_iff.2 ⟨w, b, rfl, hmirrors, ⟨h.limits.2, h.attached.2, fun _ => h.working⟩, h.outside, rfl⟩

end Tracks

/-- A line that begins with no word of a transaction is steady. -/
theorem steadyLine_of_words
    (hline : ∀ word ∈ transactionWords,
      startsWithKeyword word (skipTerminators (scan line.toList)) = false) :
    SteadyLine soloObserver line where
  stays {p x s d} h := by
    obtain ⟨w, a, rfl, hmirrors, hplain, hauto, -⟩ := sees_iff.1 h
    obtain ⟨-, hnext, -⟩ :=
      soloLine_of_tracks hline (tracks_committed hplain hauto) w.offer w.offer
    rcases hmirrors.runLine line with ⟨-, hgoes⟩ | hstruck
    · exact .inr ⟨_, sees_inside hnext hgoes⟩
    · exact .inl hstruck.fatal
  alike {p q x s d t e} h h' := by
    obtain ⟨v, a, rfl, hmirrors, hplain, hauto, hview⟩ := sees_iff.1 h
    obtain ⟨w, b, rfl, hmirrors', hplain', hauto', hview'⟩ := sees_iff.1 h'
    have htracks : Solo.Tracks a b := {
      inside := hauto
      outside := hauto'
      working := hplain'.working hauto'
      view := hview.trans hview'.symm
      limits := ⟨hplain.pageLimit, hplain'.pageLimit⟩
      attached := ⟨hplain.attached, hplain'.attached⟩ }
    obtain ⟨hsame, hnext, hkept⟩ := soloLine_of_tracks hline htracks v.offer w.offer
    rcases hmirrors.runLine line with ⟨hanswer, hleft⟩ | hstruck
    · rcases hmirrors'.runLine line with ⟨hanswer', hright⟩ | hstruck
      · have hseen := sees_inside hnext hleft
        rw [hnext.view] at hseen
        refine .inr (.inr ⟨hanswer.trans (hsame.trans hanswer'.symm), _, hseen,
          sees_outside hnext hright, fun hfail => ?_⟩)
        rw [hkept (hanswer' ▸ hfail), hview']
      · exact .inr (.inl hstruck.fatal)
    · exact .inl hstruck.fatal

end Steady

end SqlReplay.Sql
