import Mathlib.Order.Bounds.Basic
import SqlReplay.Config.Check
import SqlReplay.Proofs.Weights.Grammar
import SqlReplay.Proofs.Weights.Pairing

/-!
# Lists of names that are catalogs

A list of names is a catalog if each has the form of a name and none stands there twice.  Any other
list is refused for the first index at which this fails (`Catalog.FaultAt`): what comes after that
index does not tell (`Catalog.ofList_blames_first`).  The names that have been looked through are
kept as a collection without order, which holds just those before the index
(`Catalog.isLeast_of_firstFault?`).
-/

namespace SqlReplay.Weights.Catalog

/-- What is wrong with the name at an index: it is malformed, or it is not and stands before the
index already. -/
inductive FaultAt (names : List String) (i : ℕ) : Fault → Prop
  | malformed {name : String} (here : names[i]? = some name) (bad : ¬ IsName name.toList) :
      FaultAt names i (.malformed name)
  | duplicate {name : String} (here : names[i]? = some name) (good : IsName name.toList)
      (earlier : name ∈ names.take i) : FaultAt names i (.duplicate name)

/-- The indices at which something is wrong. -/
def faulty (names : List String) : Set ℕ := {i | ∃ fault, FaultAt names i fault}

section Faults

variable {names others : List String} {i : ℕ} {fault fault' : Fault}

theorem FaultAt.unique (h : FaultAt names i fault) (h' : FaultAt names i fault') :
    fault = fault' := by
  cases h with
  | malformed here bad =>
    cases h' with
    | malformed here' _ => rw [Option.some.inj (here.symm.trans here')]
    | duplicate here' good => exact absurd (Option.some.inj (here.symm.trans here') ▸ good) bad
  | duplicate here good =>
    cases h' with
    | malformed here' bad => exact absurd (Option.some.inj (here.symm.trans here') ▸ good) bad
    | duplicate here' _ => rw [Option.some.inj (here.symm.trans here')]

/-- Only names up to the index tell. -/
theorem FaultAt.congr {k : ℕ} (hi : i < k) (hsame : names.take k = others.take k)
    (h : FaultAt names i fault) : FaultAt others i fault := by
  have hhere : others[i]? = names[i]? := by
    rw [← List.getElem?_take_of_lt hi, ← hsame, List.getElem?_take_of_lt hi]
  have hbefore : others.take i = names.take i := by
    rw [← Nat.min_eq_left (Nat.le_of_lt hi), ← List.take_take, ← hsame, List.take_take]
  cases h with
  | malformed here bad => exact .malformed (hhere.trans here) bad
  | duplicate here good earlier => exact .duplicate (hhere.trans here) good (hbefore ▸ earlier)

theorem faultAt_length {before rest : List String} {name : String} :
    FaultAt (before ++ name :: rest) before.length fault ↔
      ¬ IsName name.toList ∧ fault = .malformed name ∨
        IsName name.toList ∧ name ∈ before ∧ fault = .duplicate name := by
  have hhere : (before ++ name :: rest)[before.length]? = some name := by simp
  have hbefore : (before ++ name :: rest).take before.length = before := by simp
  constructor
  · rintro (⟨here, bad⟩ | ⟨here, good, earlier⟩)
    · obtain rfl := Option.some.inj (here.symm.trans hhere)
      exact Or.inl ⟨bad, rfl⟩
    · obtain rfl := Option.some.inj (here.symm.trans hhere)
      exact Or.inr ⟨good, hbefore ▸ earlier, rfl⟩
  · rintro (⟨bad, rfl⟩ | ⟨good, earlier, rfl⟩)
    · exact .malformed hhere bad
    · exact .duplicate hhere good (hbefore.symm ▸ earlier)

/-- Nothing is wrong with names of the right form of which none stands there twice. -/
theorem not_faultAt (hnames : ∀ name ∈ names, IsName name.toList) (hdistinct : names.Nodup) :
    ¬ FaultAt names i fault := by
  rintro (⟨here, bad⟩ | ⟨here, good, earlier⟩)
  · exact bad (hnames _ (List.mem_of_getElem? here))
  · obtain ⟨hi, rfl⟩ := List.getElem?_eq_some_iff.1 here
    obtain ⟨j, hj, heq⟩ := List.getElem_of_mem earlier
    rw [List.length_take] at hj
    rw [List.getElem_take] at heq
    have hsame := (hdistinct.getElem_inj_iff).1 heq
    omega

end Faults

/-! ## Looking through the names -/

/-- The names seen are those before, and nothing is wrong with these. -/
theorem isLeast_of_firstFault? {before rest seen : List String} {fault : Fault}
    (hseen : ∀ name, name ∈ seen ↔ name ∈ before)
    (hbefore : ∀ i ∈ faulty (before ++ rest), before.length ≤ i)
    (h : firstFault? seen rest = some fault) :
    ∃ i, IsLeast (faulty (before ++ rest)) i ∧ FaultAt (before ++ rest) i fault := by
  induction rest generalizing before seen with
  | nil => cases h
  | cons name rest ih =>
    have hhere : FaultAt (before ++ name :: rest) before.length fault →
        ∃ i, IsLeast (faulty (before ++ name :: rest)) i ∧
          FaultAt (before ++ name :: rest) i fault :=
      fun hfault => ⟨before.length, ⟨⟨fault, hfault⟩, hbefore⟩, hfault⟩
    rw [firstFault?] at h
    split_ifs at h with hform hdouble
    · rw [Bool.not_eq_true', ← Bool.not_eq_true, isOptionName_iff] at hform
      cases h
      exact hhere (faultAt_length.2 (Or.inl ⟨hform, rfl⟩))
    · rw [Bool.not_eq_true', Bool.not_eq_false, isOptionName_iff] at hform
      rw [List.contains_iff_mem, hseen] at hdouble
      cases h
      exact hhere (faultAt_length.2 (Or.inr ⟨hform, hdouble, rfl⟩))
    · rw [Bool.not_eq_true', Bool.not_eq_false, isOptionName_iff] at hform
      rw [List.contains_iff_mem, hseen] at hdouble
      have happend : before ++ name :: rest = before ++ [name] ++ rest := by
        rw [List.append_assoc, List.singleton_append]
      have hsound : ∀ i ∈ faulty (before ++ [name] ++ rest), (before ++ [name]).length ≤ i := by
        rw [← happend]
        rintro i ⟨fault', hfault⟩
        have hle := hbefore i ⟨fault', hfault⟩
        have hne : before.length ≠ i := by
          rintro rfl
          rcases faultAt_length.1 hfault with ⟨bad, -⟩ | ⟨-, earlier, -⟩
          · exact bad hform
          · exact hdouble earlier
        rw [List.length_append, List.length_singleton]
        omega
      rw [happend]
      refine ih (fun other => ?_) hsound h
      rw [List.mem_cons, hseen, List.mem_append, List.mem_singleton]
      exact Or.comm

section Lists

variable {names : List String}

theorem isLeast_of_ofList_eq_error {fault : Fault} (h : ofList names = .error fault) :
    ∃ i, IsLeast (faulty names) i ∧ FaultAt names i fault := by
  unfold ofList at h
  split at h
  · next found hfound =>
    cases h
    have hnone : ∀ i ∈ faulty ([] ++ names), ([] : List String).length ≤ i :=
      fun i _ => Nat.zero_le i
    exact isLeast_of_firstFault? (fun _ => Iff.rfl) hnone hfound
  · cases h

theorem exists_ofList_eq_ok_iff :
    (∃ catalog, ofList names = .ok catalog) ↔
      (∀ name ∈ names, IsName name.toList) ∧ names.Nodup := by
  constructor
  · rintro ⟨catalog, h⟩
    obtain rfl := names_of_ofList_eq_ok h
    exact ⟨fun name hname => (isOptionName_iff _).1 (catalog.wellFormed name hname),
      catalog.distinct⟩
  · rintro ⟨hnames, hdistinct⟩
    cases h : ofList names with
    | ok catalog => exact ⟨catalog, rfl⟩
    | error fault =>
      obtain ⟨i, -, hfault⟩ := isLeast_of_ofList_eq_error h
      exact absurd hfault (not_faultAt hnames hdistinct)

/-- Names after the one that is blamed do not tell. -/
theorem ofList_eq_error_of_take {others : List String} {i : ℕ} {fault : Fault}
    (hleast : IsLeast (faulty names) i) (hfault : FaultAt names i fault)
    (hsame : others.take (i + 1) = names.take (i + 1)) : ofList others = .error fault := by
  have hothers : FaultAt others i fault := hfault.congr (Nat.lt_succ_self i) hsame.symm
  cases h : ofList others with
  | ok catalog =>
    obtain ⟨hnames, hdistinct⟩ := exists_ofList_eq_ok_iff.1 ⟨catalog, h⟩
    exact absurd hothers (not_faultAt hnames hdistinct)
  | error fault' =>
    obtain ⟨j, hj, hfault'⟩ := isLeast_of_ofList_eq_error h
    have hji : j ≤ i := hj.2 ⟨fault, hothers⟩
    have hij : i ≤ j := hleast.2 ⟨fault', hfault'.congr (Nat.lt_succ_of_le hji) hsame⟩
    obtain rfl := Nat.le_antisymm hji hij
    rw [hfault'.unique hothers]

end Lists

/-- A list of names is a catalog if and only if each has the form of a name and none stands there
twice, and the catalog is then the list.  Otherwise the settings are refused for what is wrong at
the first index at which a name is malformed or stands before, whatever comes after it. -/
theorem ofList_blames_first (names : List String) :
    ((∃ catalog, ofList names = .ok catalog) ↔
      (∀ name ∈ names, IsName name.toList) ∧ names.Nodup) ∧
    (∀ catalog, ofList names = .ok catalog → catalog.names = names ∧
      (∀ name, catalog.contains name = true ↔ name ∈ names) ∧
      catalog.pairCount = names.length * (names.length - 1) / 2) ∧
    ∀ fault, ofList names = .error fault → ∃ i,
      IsLeast (faulty names) i ∧ FaultAt names i fault ∧
      (∀ others, others.take (i + 1) = names.take (i + 1) → ofList others = .error fault) ∧
      ∀ config : Config, config.weights.options = names →
        config.catalog = .error (.invalidConfig fault.message) := by
  refine ⟨exists_ofList_eq_ok_iff, ?_, ?_⟩
  · intro catalog h
    obtain rfl := names_of_ofList_eq_ok h
    exact ⟨rfl, fun name => List.contains_iff_mem, rfl⟩
  · intro fault h
    obtain ⟨i, hleast, hfault⟩ := isLeast_of_ofList_eq_error h
    refine ⟨i, hleast, hfault, fun others => ofList_eq_error_of_take hleast hfault, ?_⟩
    rintro config rfl
    rw [Config.catalog, h]
    rfl

/-- A name with a line feed at its end is blamed, and not one that comes again after it. -/
theorem ofList_blames_first_newline : ∀ rest,
    ofList ("_a1" :: "flush" :: "a\n" :: "flush" :: rest) = .error (.malformed "a\n") := by
  intro rest
  have hfault : ofList ["_a1", "flush", "a\n"] = .error (.malformed "a\n") := rfl
  obtain ⟨i, -, hat, hothers, -⟩ := (ofList_blames_first _).2.2 _ hfault
  obtain rfl : i = 2 := by
    cases hat with
    | malformed here bad =>
      have hlt : i < 3 := (List.getElem?_eq_some_iff.1 here).1
      have hcases : i = 0 ∨ i = 1 ∨ i = 2 := by omega
      rcases hcases with rfl | rfl | rfl
      · exact absurd here (by decide)
      · exact absurd here (by decide)
      · rfl
  exact hothers _ rfl

end SqlReplay.Weights.Catalog
