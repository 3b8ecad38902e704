/-!
# Computations that may fail

What the parts of a computation came to, read off what it came to as a whole.
-/

namespace SqlReplay

variable {ε ε' α β : Type} {x : Except ε α}

/-- Two computations in a row succeed only if both do. -/
theorem bind_eq_ok_iff {f : α → Except ε β} {b : β} :
    x >>= f = .ok b ↔ ∃ a, x = .ok a ∧ f a = .ok b := by
  cases x <;> simp [bind, Except.bind]

/-- Two computations in a row fail as the first of them, or as the second after it. -/
theorem bind_eq_error_iff {f : α → Except ε β} {fault : ε} :
    x >>= f = .error fault ↔ x = .error fault ∨ ∃ a, x = .ok a ∧ f a = .error fault := by
  cases x <;> simp [bind, Except.bind]

/-- If what comes second fails in the same cases whatever it gets, both fail if either does. -/
theorem exists_bind_eq_error_iff {f : α → Except ε β} {P : Prop}
    (h : ∀ a, (∃ fault, f a = .error fault) ↔ P) :
    (∃ fault, x >>= f = .error fault) ↔ (∃ fault, x = .error fault) ∨ P := by
  cases x with
  | error fault => simp [bind, Except.bind]
  | ok a => simpa [bind, Except.bind] using h a

theorem toOption_eq_some_iff {a : α} : x.toOption = some a ↔ x = .ok a := by
  cases x <;> simp [Except.toOption]

theorem map_eq_ok_iff {f : α → β} {b : β} : x.map f = .ok b ↔ ∃ a, x = .ok a ∧ f a = b := by
  cases x <;> simp [Except.map]

theorem map_eq_error_iff {f : α → β} {fault : ε} : x.map f = .error fault ↔ x = .error fault := by
  cases x <;> simp [Except.map]

theorem mapError_eq_ok_iff {f : ε → ε'} {a : α} : x.mapError f = .ok a ↔ x = .ok a := by
  cases x with
  | error fault => exact ⟨nofun, nofun⟩
  | ok b => exact ⟨fun h => by cases h; rfl, fun h => by cases h; rfl⟩

theorem mapError_eq_error_iff {f : ε → ε'} {fault : ε'} :
    x.mapError f = .error fault ↔ ∃ cause, x = .error cause ∧ f cause = fault := by
  cases x with
  | error cause =>
    constructor
    · intro h
      cases h
      exact ⟨cause, rfl, rfl⟩
    · rintro ⟨_, ⟨⟩, rfl⟩
      rfl
  | ok a => exact ⟨nofun, nofun⟩

end SqlReplay
