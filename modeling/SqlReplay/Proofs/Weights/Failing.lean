import SqlReplay.Proofs.Error
import SqlReplay.Proofs.Except
import SqlReplay.Proofs.Weights.Generating

/-!
# How work with weight tables fails

Once the settings are known to give a catalog and a range, a generation fails only on files
(`generate_isIo`).  A table that cannot be read is missing, malformed or on a faulty file
(`Table.load_eq_error`).
-/

namespace SqlReplay.Weights

open Storage

namespace Table

variable {table : Table} {d e : Disk} {path : Path} {fault : Error}

theorem writeTo_isIo (h : table.writeTo d path = (.error fault, e)) : fault.IsIo := by
  unfold writeTo at h
  rcases hcreate : d.createFile path with ⟨_ | id, d₁⟩
  · simp only [hcreate] at h
    cases h
    exact ⟨_, _, rfl⟩
  rcases hwrite : Buffered.writeAll id table.pieces d₁ with ⟨_ | _, d₂⟩
  · simp only [hcreate, hwrite] at h
    cases h
    exact ⟨_, _, rfl⟩
  rcases hsync : d₂.sync id with ⟨_ | _, d₃⟩
  all_goals
    simp only [hcreate, hwrite, hsync] at h
    cases h
  exact ⟨_, _, rfl⟩

theorem publish_isIo (h : table.publish d path = (.error fault, e)) : fault.IsIo := by
  unfold publish at h
  rcases hwrite : table.writeTo d (draftPath path) with ⟨_ | _, d₁⟩
  · simp only [hwrite] at h
    cases h
    exact writeTo_isIo hwrite
  rcases hrename : d₁.rename (draftPath path) path with ⟨_ | _, d₂⟩
  all_goals
    simp only [hwrite, hrename] at h
    cases h
  exact ⟨_, _, rfl⟩

theorem persist_isIo (h : table.persist d path = (.error fault, e)) : fault.IsIo := by
  unfold persist at h
  rcases hparents : d.makeParents path with ⟨⟨parent, cause⟩ | _, d₁⟩
  · simp only [hparents] at h
    cases h
    exact ⟨_, _, rfl⟩
  rcases hpublish : table.publish d₁ path with ⟨_ | _, d₂⟩
  all_goals
    simp only [hparents, hpublish] at h
    cases h
  exact publish_isIo hpublish

theorem load_eq_error (h : Table.load d path = .error fault) :
    fault = .notFound path ∨ (∃ line details, fault = .weightTable path line details) ∨
      fault.IsIo := by
  unfold load at h
  cases hread : d.read path with
  | error cause =>
    simp only [hread, Except.error.injEq] at h
    exact h ▸ (Error.ofRead_cases path cause).imp_right Or.inr
  | ok content =>
    cases hdecode : Utf8.decode content.bytes with
    | error cause =>
      simp only [hread, hdecode, Except.error.injEq] at h
      exact Or.inr (Or.inr ⟨_, _, h.symm⟩)
    | ok text =>
      simp only [hread, hdecode, ofText, mapError_eq_error_iff] at h
      obtain ⟨cause, -, rfl⟩ := h
      exact Or.inr (Or.inl ⟨_, _, rfl⟩)

end Table

variable {σ : Type} [WordSource σ] {config : Config} {source : σ} {d : Disk} {fault : Error}

/-- A generation from usable settings fails only on files. -/
theorem generate_isIo {catalog : Catalog} {range : Range} (hcatalog : config.catalog = .ok catalog)
    (hrange : config.range = .ok range) (h : (generate config source d).result = .error fault) :
    fault.IsIo := by
  simp only [generate, hcatalog, hrange] at h
  rcases hpersist : (seededTable catalog range config.weights.seed source).persist d
    config.weights.outputPath with ⟨cause | _, e⟩
  all_goals
    simp only [hpersist] at h
    cases h
  exact Table.persist_isIo hpersist

end SqlReplay.Weights
