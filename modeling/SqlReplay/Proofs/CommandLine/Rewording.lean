import SqlReplay.CommandLine.Ended
import SqlReplay.Proofs.Event.Rewording
import SqlReplay.Proofs.Event.Touching
import SqlReplay.Proofs.Except
import SqlReplay.Proofs.Replay.Rewording
import SqlReplay.Proofs.Weights.Rewording

/-!
# Commands do not read other texts

A replay reads one text besides the configuration file, its log, and a generation reads none.  With
the same settings, on disks that are the same but for other texts, a command comes out the same
(`performReplay_reworded`, `performGenerate_reworded`), and so does what is made of it in the end
(`Performance.Reworded.logged_disk`).
-/

namespace SqlReplay.CommandLine

open Storage Disk

variable {ids : Set Id} {d e : Disk} {c : Circumstances} {common : Common}
  {change change' : Config → Config} {errors : ErrorStream}

/-- Whether two commands came out the same, on disks that are then the same but for some texts, of
which a table just written is none.  What they were warned of does not matter. -/
structure Performance.Reworded (ids : Set Id) (left right : Performance) : Prop where
  announced : right.announced = left.announced
  answer : right.answer = left.answer
  events : right.events = left.events
  journal : right.journal = left.journal
  errors : right.errors = left.errors
  disk : Disk.Reworded ids left.disk right.disk
  table : ∀ summary, left.answer = .ok (.generated summary) → ∃ place id,
    left.disk.locate summary.path = .ok (.file place id) ∧
      Disk.Reworded (ids \ {id}) left.disk right.disk

/-- A command that failed before it touched anything. -/
theorem plain_reworded (problem : Problem) (errors : ErrorStream) (h : Disk.Reworded ids d e) :
    (Performance.plain (.error problem) d errors).Reworded ids
      (.plain (.error problem) e errors) :=
  ⟨rfl, rfl, rfl, rfl, rfl, h, nofun⟩

/-! ## Commands -/

theorem performReplay_reworded (h : Disk.Reworded ids d e)
    (hsettings : settingsFor c common e change = settingsFor c common d change)
    (hlog : ∀ config place id, settingsFor c common d change = .ok config →
      (Journal.opening config.files.eventLog d errors).disk.locate config.replay.logPath =
        .ok (.file place id) → id ∉ ids) :
    (performReplay c common change d errors).Reworded ids
      (performReplay c common change e errors) := by
  unfold performReplay
  rw [hsettings]
  cases hconfig : settingsFor c common d change with
  | error fault => exact plain_reworded _ _ h
  | ok config =>
    dsimp only
    split
    · exact plain_reworded _ _ h
    · have hopened := Logging.opening_reworded config.files.eventLog errors h
      have hlog := fun place id => hlog config place id hconfig
      generalize Journal.opening config.files.eventLog d errors = l at hopened hlog ⊢
      generalize Journal.opening config.files.eventLog e errors = k at hopened ⊢
      obtain ⟨journal, errors, h⟩ := hopened
      obtain ⟨hresult, hevents, hdisk⟩ := Replay.run_reworded h (h.read hlog)
      refine ⟨rfl, by rw [hresult], by rw [hevents], rfl, rfl, hdisk, fun summary hanswer => ?_⟩
      obtain ⟨_, -, hreplayed⟩ := map_eq_ok_iff.1 (mapError_eq_ok_iff.1 hanswer)
      cases hreplayed

theorem performGenerate_reworded (h : Disk.Reworded ids d e)
    (hsettings : settingsFor c common e change = settingsFor c common d change) :
    (performGenerate c common change d errors).Reworded ids
      (performGenerate c common change e errors) := by
  unfold performGenerate
  rw [hsettings]
  cases settingsFor c common d change with
  | error fault => exact plain_reworded _ _ h
  | ok config =>
    dsimp only
    have hopened := Logging.opening_reworded config.files.eventLog errors h
    generalize Journal.opening config.files.eventLog d errors = l at hopened ⊢
    generalize Journal.opening config.files.eventLog e errors = k at hopened ⊢
    obtain ⟨journal, errors, h⟩ := hopened
    obtain ⟨hresult, hevents, hdisk, htable⟩ := Weights.generate_reworded config c.words h
    refine ⟨rfl, by rw [hresult], by rw [hevents], rfl, rfl, hdisk, fun summary hanswer => ?_⟩
    obtain ⟨_, hsummary, ⟨⟩⟩ := map_eq_ok_iff.1 (mapError_eq_ok_iff.1 hanswer)
    exact htable summary hsummary

/-! ## The journal -/

theorem locate_writing (p : Performance) (clock : Clock) (journal : Journal) (path : Path) :
    (p.writing clock journal).disk.locate path = p.disk.locate path :=
  Logging.locate_writeAll _ path _

theorem locate_logged (p : Performance) (clock : Clock) (path : Path) :
    (p.logged clock).1.locate path = p.disk.locate path := by
  unfold Performance.logged
  cases p.journal with
  | none => rfl
  | some journal =>
    exact (Logging.locate_finish _ path).trans (locate_writing p clock journal path)

theorem locate_abandoned (p : Performance) (clock : Clock) (path : Path) :
    (p.abandoned clock).locate path = p.disk.locate path := by
  unfold Performance.abandoned
  cases p.journal with
  | none => rfl
  | some journal => exact locate_writing p clock journal path

namespace Performance.Reworded

variable {left right : Performance} {more : Set Id}

theorem writing (h : left.Reworded ids right) (hdisk : Disk.Reworded more left.disk right.disk)
    (clock : Clock) (journal : Journal) :
    (left.writing clock journal).Reworded more (right.writing clock journal) := by
  rw [Performance.writing, Performance.writing, h.events, h.errors]
  exact (Logging.Reworded.mk journal left.errors hdisk).writeAll (left.events.map clock.stamp)

/-- What is written to the journal in the end keeps the disks the same but for the same texts. -/
theorem logged_disk (h : left.Reworded ids right) (hdisk : Disk.Reworded more left.disk right.disk)
    (clock : Clock) : Disk.Reworded more (left.logged clock).1 (right.logged clock).1 ∧
      (right.logged clock).2 = (left.logged clock).2 := by
  simp only [Performance.logged, h.journal]
  cases left.journal with
  | none => exact ⟨hdisk, h.errors⟩
  | some journal =>
    have hwrote := h.writing hdisk clock journal
    exact ⟨hwrote.finish, hwrote.errors⟩

theorem abandoned_disk (h : left.Reworded ids right)
    (hdisk : Disk.Reworded more left.disk right.disk) (clock : Clock) :
    Disk.Reworded more (left.abandoned clock) (right.abandoned clock) := by
  simp only [Performance.abandoned, h.journal]
  cases left.journal with
  | none => exact hdisk
  | some journal => exact (h.writing hdisk clock journal).disk

/-- The table is the same in the end. -/
theorem read_table (h : left.Reworded ids right) {summary : Weights.Summary}
    (hanswer : left.answer = .ok (.generated summary)) {d e : Disk}
    (hlocate : d.locate summary.path = left.disk.locate summary.path)
    (hdisk : ∀ more, Disk.Reworded more left.disk right.disk → Disk.Reworded more d e) :
    e.read summary.path = d.read summary.path := by
  obtain ⟨place, id, hplace, htable⟩ := h.table summary hanswer
  refine (hdisk _ htable).read fun place' id' hplace' hid => ?_
  rw [hlocate, hplace] at hplace'
  cases hplace'
  exact hid.2 rfl

end Performance.Reworded

end SqlReplay.CommandLine
