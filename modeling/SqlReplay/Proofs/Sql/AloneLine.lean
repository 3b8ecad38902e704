import SqlReplay.Proofs.Sql.AloneStep
import SqlReplay.Proofs.Sql.Acting

/-!
# Lines in a session alone

A session that is alone with its file answers to lines as the two databases alone demand
(`Site.Mirrors.runLine`), unless a fault strikes.  In either case the file holds at any time what
was committed last, and it is what a reader finds once the session has been closed.
-/

namespace SqlReplay.Sql

open Storage Replay

/-- Runs one line in a session that is alone. -/
def soloLine (offers : String → Offer) (line : String) (a : Solo) : Except ExecFault Unit × Solo :=
  match a.prepare (scan line.toList) with
  | .error fault => (.error (fault.execFault (fault.report line)), a)
  | .ok none => (.ok (), a)
  | .ok (some (operation, rest)) =>
    if (skipTerminators rest).isEmpty then
      match a.step offers operation with
      | (.ok (), a) => (.ok (), a)
      | (.error fault, a) => (.error (fault.execFault fault.message), a)
    else (.error (.rejected severalStatements), a)

/-- The database committed to the file at a path, whatever locks there are on it. -/
def committedAt (d : Disk) (p : Path) : Option (Except Error Database) :=
  match d.find p with
  | .ok (.file _ id) => some (Session.committed d id)
  | _ => none

namespace Site

variable {w : Site} {stored : Option Database} {a : Solo} {s : Session} {d : Disk}

/-! ## Answers -/

/-- Whether a line ended because a fault struck, with the given database still in the file. -/
structure StruckLine (w : Site) (stored : Option Database)
    (got : Except ExecFault Unit × Session × Disk) : Prop where
  fault : ∃ fault, some fault ∈ w.origin.faults
  fatal : ∃ message, got.1 = .error (.fatal message)
  serves : w.Serves got.2.1
  kept : w.Kept stored got.2.2

theorem not_struckLine {got : Except ExecFault Unit × Session × Disk}
    (hfaults : w.origin.faults = []) : ¬ w.StruckLine stored got := by
  intro h
  obtain ⟨fault, hfault⟩ := h.fault
  rw [hfaults] at hfault
  cases hfault

theorem not_struck {got : Except Error Unit × Session × Disk}
    (hfaults : w.origin.faults = []) : ¬ w.Struck stored got := by
  intro h
  obtain ⟨fault, hfault⟩ := h.fault
  rw [hfaults] at hfault
  cases hfault

/-- A line does to a session what it does to the session alone, or a fault strikes. -/
theorem Mirrors.runLine (h : w.Mirrors a s d) (line : String) :
    (Target.runLine line s d).1 = (soloLine w.offer line a).1 ∧
        w.Mirrors (soloLine w.offer line a).2 (Target.runLine line s d).2.1
          (Target.runLine line s d).2.2 ∨
      w.StruckLine a.stored (Target.runLine line s d) := by
  obtain ⟨hprepared, hmirrors⟩ := h.prepareFirst (scan line.toList)
  rw [Session.runLine_eq]
  unfold soloLine
  rw [← hprepared]
  generalize hgot : s.prepareFirst d (scan line.toList) = got at hprepared hmirrors ⊢
  obtain ⟨fault | _ | ⟨operation, rest⟩, s'⟩ := got
  · exact .inl ⟨rfl, hmirrors⟩
  · exact .inl ⟨rfl, hmirrors⟩
  dsimp only
  split
  · have hstep := hmirrors.step (Site.ne_outdated_of_prepare hprepared.symm)
    generalize s'.step d operation = got at hstep ⊢
    obtain ⟨result, s'', e⟩ := got
    rcases hstep with ⟨hresult, hnext⟩ | hstruck
    · generalize a.step w.offer operation = want at hresult hnext ⊢
      obtain ⟨answer, b⟩ := want
      obtain rfl : result = answer := hresult
      cases result with
      | ok _ => exact .inl ⟨rfl, hnext⟩
      | error fault => exact .inl ⟨rfl, hnext⟩
    · obtain ⟨cause, hcause, hfatal⟩ := hstruck.fatal
      cases hcause
      refine .inr ⟨hstruck.fault, ⟨cause.message, ?_⟩, hstruck.serves, hstruck.kept⟩
      rw [Session.told, Error.execFault_eq, if_pos hfatal]
  · exact .inl ⟨rfl, (hmirrors.prepareFirst rest).2⟩

/-! ## What readers find -/

theorem Kept.find (h : w.Kept stored d) : d.find w.path = .ok (.file w.main w.file) := by
  unfold Disk.find
  rw [h.locate_path]
  simp only [w.path_slash, Bool.false_eq_true, if_false]

theorem Kept.committedAt (h : w.Kept stored d) :
    committedAt d w.path = some (.ok (stored.getD .empty)) := by
  simp only [Sql.committedAt, h.find, h.committed]

theorem Kept.close (h : w.Kept stored d) (hs : w.Serves s) : w.Kept stored (s.close d) :=
  (h.rollBack hs).2

end Site

end SqlReplay.Sql
