import SqlReplay.Error

/-!
# Kinds of failures

Failures of the input are those that the settings or the input files cause; the user is to blame for
just these (`isUserError_iff`).  Failures of the circumstances are those of the connection to a
target and those of operations on files.
-/

namespace SqlReplay.Error

open Storage

variable {fault : Error}

/-- Whether a failure is one of the input: of the settings or of the files that are read. -/
inductive IsInput : Error → Prop
  | invalidConfig (details : String) : IsInput (.invalidConfig details)
  | missingConfig (path : Path) : IsInput (.missingConfig path)
  | configParse (context details : String) : IsInput (.configParse context details)
  | notFound (path : Path) : IsInput (.notFound path)
  | weightTable (path : Path) (line : Nat) (details : String) :
      IsInput (.weightTable path line details)

theorem isUserError_iff : fault.isUserError = true ↔ fault.IsInput := by
  constructor
  · intro h
    cases fault with
    | invalidConfig details => exact .invalidConfig details
    | missingConfig path => exact .missingConfig path
    | configParse context details => exact .configParse context details
    | notFound path => exact .notFound path
    | weightTable path line details => exact .weightTable path line details
    | _ => cases h
  · rintro ⟨⟩ <;> rfl

/-- Whether a failure is one of the connection to a target. -/
def IsConnection (fault : Error) : Prop := ∃ context details, fault = .connection context details

/-- Whether a failure is one of an operation on files. -/
def IsIo (fault : Error) : Prop := ∃ path cause, fault = .io path cause

theorem IsConnection.isUserError (h : fault.IsConnection) : fault.isUserError = false := by
  obtain ⟨context, details, rfl⟩ := h
  rfl

theorem IsIo.isUserError (h : fault.IsIo) : fault.isUserError = false := by
  obtain ⟨path, cause, rfl⟩ := h
  rfl

/-- An input that cannot be read is missing, or its file is at fault. -/
theorem ofRead_cases (path : Path) (cause : Fault) :
    ofRead path cause = .notFound path ∨ (ofRead path cause).IsIo := by
  unfold ofRead
  split
  · exact Or.inl rfl
  · exact Or.inr ⟨path, cause, rfl⟩

end SqlReplay.Error
