import SqlReplay.Proofs.Replay.Likeness
import SqlReplay.Proofs.Sql.AloneEngine

/-!
# Likeness of sessions

Sessions keep the promises of an engine on sessions that are alike (`likenessLaws`): two sessions
that are alone with their files and have the same databases do the same, if they are offered the
same files to attach.  Every line is determined, and none changes another file.
-/

namespace SqlReplay.Sql

open Storage Replay

/-! ## Sessions alone do as they are told -/

/-- Two sessions alone with the same databases, and a session alone, where no fault will strike. -/
def soloLikeness : Likeness Session where
  Content := Option (Except Error Database)
  content p d := committedAt d p
  Alike p s d s' d' := ∃ (v w : Site) (a : Solo), v.path = p ∧ w.path = p ∧ v.offer = w.offer ∧
    v.origin.faults = [] ∧ w.origin.faults = [] ∧ v.Mirrors a s d ∧ w.Mirrors a s' d'
  Own p s d := ∃ (w : Site) (a : Solo), w.path = p ∧ w.origin.faults = [] ∧ w.Mirrors a s d

theorem content_soloLikeness (p : Path) (d : Disk) :
    soloLikeness.content p d = committedAt d p := rfl

section Acting

variable {ε α : Type} {act : Session → Disk → Except ε α × Session × Disk}
  {want : (String → Offer) → Solo → Except ε α × Solo}

/-- Whether an action of a session does what it does to the session alone, if no fault strikes. -/
def ActsAs (act : Session → Disk → Except ε α × Session × Disk)
    (want : (String → Offer) → Solo → Except ε α × Solo) : Prop :=
  ∀ (w : Site) (a : Solo) (s : Session) (d : Disk), w.origin.faults = [] → w.Mirrors a s d →
    (act s d).1 = (want w.offer a).1 ∧ w.Mirrors (want w.offer a).2 (act s d).2.1 (act s d).2.2

theorem respects_of_actsAs (h : ActsAs act want) : soloLikeness.Respects act := by
  rintro p s d s' d' ⟨v, w, a, hv, hw, hoffer, hvfaults, hwfaults, hleft, hright⟩
  obtain ⟨hanswer, hnext⟩ := h v a s d hvfaults hleft
  obtain ⟨hanswer', hnext'⟩ := h w a s' d' hwfaults hright
  rw [hoffer] at hanswer hnext
  exact ⟨hanswer.trans hanswer'.symm, v, w, _, hv, hw, hoffer, hvfaults, hwfaults, hnext, hnext'⟩

theorem confined_of_kept {w : Site} {stored stored' : Option Database} {d e : Disk}
    (hfaults : w.origin.faults = []) (hd : w.Kept stored d) (he : w.Kept stored' e) :
    ConfinedTo (filesOf w.path) d e where
  numbered _ := he.numbered
  faults := by
    have hnone : e.faults = [] := List.suffix_nil.1 (hfaults ▸ he.faults)
    rw [hnone]
    exact List.nil_suffix
  apart.directories := hd.directories.symm.trans he.directories
  apart.holds place hplace := by
    have hmain : place ≠ w.main := by
      rintro rfl
      exact hplace w.path (self_mem_filesOf _) ((hd.seat? _).trans w.seat_path)
    rw [hd.elsewhere place hmain, he.elsewhere place hmain]

theorem confines_of_actsAs (h : ActsAs act want) : soloLikeness.Confines act := by
  rintro p s d ⟨w, a, rfl, hfaults, hmirrors⟩
  obtain ⟨-, hnext⟩ := h w a s d hfaults hmirrors
  exact ⟨confined_of_kept hfaults hmirrors.kept hnext.kept, w, _, rfl, hfaults, hnext⟩

theorem actsAs_runLine (line : String) : ActsAs (Target.runLine line) (soloLine · line) :=
  fun _ _ _ _ hfaults hmirrors =>
    (hmirrors.runLine line).resolve_right (Site.not_struckLine hfaults)

/-- Every line is determined. -/
theorem determined (line : String) : soloLikeness.Determined line :=
  respects_of_actsAs (actsAs_runLine line)

/-- No line changes another file. -/
theorem ownOnly (line : String) : soloLikeness.OwnOnly line :=
  confines_of_actsAs (actsAs_runLine line)

/-- A word that is prepared to an operation whatever there is. -/
theorem actsAs_perform {text : String} (operation : Operation) (hsame : operation.isChange = false)
    (hknown : ∀ writes fault, operation ≠ .outdated writes fault)
    (h : ∀ schema, Session.prepareIn schema (scan text.toList) =
      (.ok (some (operation, [])), false)) :
    ActsAs (Engine.perform text) fun offers a =>
      ((a.step offers operation).1.mapError fun fault => ⟨fault.code?, fault.message⟩,
        (a.step offers operation).2) := by
  intro w a s d hfaults hmirrors
  obtain ⟨hanswer, hnext⟩ :=
    (hmirrors.step hknown).resolve_right (Site.not_struck hfaults)
  rw [Session.perform_eq, Session.runScript_of_forall operation hsame h]
  dsimp only
  rw [← hanswer]
  refine ⟨?_, hnext⟩
  cases (s.step d operation).1 <;> rfl

theorem actsAs_wait (ms : UInt64) :
    ActsAs (Engine.wait ms) fun _ a => ((.ok () : Except EngineFault Unit), a) :=
  fun _ _ _ _ _ hmirrors => ⟨rfl, hmirrors⟩

theorem actsAs_begin : ∃ want, ActsAs (Engine.perform "BEGIN") want :=
  ⟨_, actsAs_perform (.begin .deferred) rfl nofun fun _ => rfl⟩

theorem actsAs_commit : ∃ want, ActsAs (Engine.perform "COMMIT") want :=
  ⟨_, actsAs_perform .commit rfl nofun fun _ => rfl⟩

end Acting

/-! ## Opening and closing -/

section Opening

variable {p : Path} {d e : Disk}

/-- A file that is not there is opened where no fault strikes. -/
theorem opening_of_vacancy {name : Name} {dir beside : Location} (hfaults : d.faults = [])
    (h : Vacancy d p name dir beside) :
    Engine.opening p d = (.ok h.session, h.site.origin) ∧ h.site.origin.faults = [] := by
  have hopen : Session.opening d p = (some h.session, h.site.origin) := by
    refine h.opening.resolve_left ?_
    rintro ⟨fault, hfault, -⟩
    rw [hfaults] at hfault
    cases hfault
  refine ⟨?_, ?_⟩
  · have hopening : Engine.opening p d = Session.openingAt p d := rfl
    rw [hopening, Session.openingAt, hopen]
  · have hspent : h.site.origin.faults = d.faults.tail := rfl
    rw [hspent, hfaults, List.tail_nil]

/-- Where the files of a database are gone from disks that are otherwise the same, new sessions are
offered the same files. -/
theorem offer_of_apart {name name' : Name} {dir dir' beside beside' : Location}
    (hvacant : AllVacant d p) (hvacant' : AllVacant e p) (hapart : d.SameApart (filesOf p) e)
    (h : Vacancy d p name dir beside) (h' : Vacancy e p name' dir' beside') :
    h.site.offer = h'.site.offer := by
  have hmain : name :: dir = name' :: dir' := by
    have hseat := (Disk.seat?_congr hapart.directories p).symm.trans h.seat
    exact Option.some.inj (hseat.symm.trans h'.seat)
  refine Site.offer_congr ?_ hmain fun place _ => ?_
  · exact ((sameDirectories_opened h.node).symm.trans hapart.directories).trans
      (sameDirectories_opened h'.node)
  · have hleft : h.site.origin.holds place = d.holds place := holds_opened h.numbered h.node place
    have hright : h'.site.origin.holds place = e.holds place :=
      holds_opened h'.numbered h'.node place
    rw [hleft, hright]
    by_cases hplace : ∀ q ∈ filesOf p, d.seat? q ≠ some place
    · exact hapart.holds place hplace
    · -- One of the files of the database would be there, but on neither disk there is one.
      push Not at hplace
      obtain ⟨q, hq, hseat⟩ := hplace
      obtain ⟨⟨other, hother, hnode⟩, -⟩ := hvacant q hq
      obtain ⟨⟨other', hother', hnode'⟩, -⟩ := hvacant' q hq
      rw [hseat] at hother
      cases hother
      rw [← Disk.seat?_congr hapart.directories q, hseat] at hother'
      cases hother'
      rw [Disk.holds_of_none hnode, Disk.holds_of_none hnode']

theorem confined_opening (hd : d.Numbered) (hfaults : d.faults = []) (hvacant : AllVacant d p) :
    ConfinedTo (filesOf p) d (Engine.opening (σ := Session) p d).2 ∧
      ∀ s d', Engine.opening p d = (.ok s, d') → soloLikeness.Own p s d' := by
  obtain ⟨name, dir, beside, hvacancy⟩ := exists_vacancy hd hvacant
  obtain ⟨hopening, hfaults'⟩ := opening_of_vacancy hfaults hvacancy
  rw [hopening]
  refine ⟨⟨fun _ => hvacancy.kept.numbered, ?_, sameDirectories_opened hvacancy.node, ?_⟩, ?_⟩
  · rw [hfaults']
    exact List.nil_suffix
  · exact fun place _ => (holds_opened hd hvacancy.node place).symm
  · intro s d' h
    cases h
    exact ⟨hvacancy.site, Solo.fresh, rfl, hfaults', hvacancy.mirrors⟩

theorem committedAt_of_no_file (h : ∀ place id, d.locate p ≠ .ok (.file place id)) :
    committedAt d p = none := by
  unfold committedAt Disk.find
  cases hlocate : d.locate p with
  | error fault => rfl
  | ok spot =>
    cases spot with
    | file place id => exact absurd hlocate (h place id)
    | directory place => rfl
    | vacant dir name => rfl

end Opening

/-- Sessions keep the promises of an engine on sessions that are alike. -/
theorem likenessLaws : LikenessLaws soloLikeness where
  opening {p d e} hd he hdfaults hefaults hvacant hvacant' hapart := by
    obtain ⟨name, dir, beside, hleft⟩ := exists_vacancy hd hvacant
    obtain ⟨name', dir', beside', hright⟩ := exists_vacancy he hvacant'
    obtain ⟨hopen, hfaults⟩ := opening_of_vacancy hdfaults hleft
    obtain ⟨hopen', hfaults'⟩ := opening_of_vacancy hefaults hright
    exact .inr ⟨_, _, _, _, hopen, hopen', hleft.site, hright.site, Solo.fresh, rfl, rfl,
      offer_of_apart hvacant hvacant' hapart hleft hright, hfaults, hfaults', hleft.mirrors,
      hright.mirrors⟩
  opening_own hd hfaults hvacant := confined_opening hd hfaults hvacant
  wait ms := ⟨respects_of_actsAs (actsAs_wait ms), confines_of_actsAs (actsAs_wait ms)⟩
  begin := by
    obtain ⟨want, hacts⟩ := actsAs_begin
    exact ⟨respects_of_actsAs hacts, confines_of_actsAs hacts⟩
  commit := by
    obtain ⟨want, hacts⟩ := actsAs_commit
    exact ⟨respects_of_actsAs hacts, confines_of_actsAs hacts⟩
  autocommits := by
    rintro p s d s' d' ⟨v, w, a, -, -, -, -, -, hleft, hright⟩
    exact hleft.autocommit.trans hright.autocommit.symm
  close := by
    rintro p s d s' d' ⟨v, w, a, rfl, hw, -, -, -, hleft, hright⟩
    refine ⟨rfl, ?_⟩
    have hcommitted' := (hright.kept.close hright.serves).committedAt
    rw [hw] at hcommitted'
    exact (hleft.kept.close hleft.serves).committedAt.trans hcommitted'.symm
  close_own := by
    rintro p s d ⟨w, a, rfl, hfaults, hmirrors⟩
    exact confined_of_kept hfaults hmirrors.kept (hmirrors.kept.close hmirrors.serves)
  nowhere h h' := (committedAt_of_no_file h).trans (committedAt_of_no_file h').symm

end SqlReplay.Sql
