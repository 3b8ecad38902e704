import SqlReplay.Text.Quoted

/-!
# Catalogs of option names

A catalog lists the options under test: distinct names that can stand in a weight record unescaped.
Building one from a list fails at the first name that is malformed or has occurred before.
-/

namespace SqlReplay.Weights

/-- Whether a character can begin an option name. -/
def isNameStart (c : Char) : Bool := c.isAlpha || c = '_'

/-- Whether a character can stand in an option name after its beginning. -/
def isNameRest (c : Char) : Bool := isNameStart c || c.isDigit

/-- Whether a text is an option name: a letter or underscore, then letters, digits, underscores. -/
def isOptionName (cs : List Char) : Bool :=
  match cs with
  | [] => false
  | c :: cs => isNameStart c && cs.all isNameRest

/-- Option names in order, well-formed and without repetition. -/
structure Catalog where
  names : List String
  wellFormed : ∀ name ∈ names, isOptionName name.toList = true
  distinct : names.Nodup

namespace Catalog

/-- Why a list of names is no catalog. -/
inductive Fault
  | malformed (name : String)
  | duplicate (name : String)
deriving DecidableEq

/-- The fault in words. -/
def Fault.message : Fault → String
  | malformed name => "option name " ++ Text.quoted name ++ " must match [A-Za-z_][A-Za-z0-9_]*"
  | duplicate name => "duplicate option name " ++ Text.quoted name ++ " in catalog"

/-- The first fault of a list whose names come after those of `seen`. -/
def firstFault? (seen : List String) : List String → Option Fault
  | [] => none
  | name :: names =>
    if !isOptionName name.toList then some (.malformed name)
    else if seen.contains name then some (.duplicate name)
    else firstFault? (name :: seen) names

theorem sound_of_firstFault?_eq_none {names seen : List String}
    (h : firstFault? seen names = none) :
    (∀ name ∈ names, isOptionName name.toList = true) ∧ names.Nodup ∧
      ∀ name ∈ names, name ∉ seen := by
  induction names generalizing seen with
  | nil => simp
  | cons name names ih =>
    simp only [firstFault?] at h
    split at h
    · simp at h
    · next hv =>
      split at h
      · simp at h
      · next hs =>
        obtain ⟨hw, hd, hn⟩ := ih h
        simp only [Bool.not_eq_true', Bool.not_eq_false] at hv
        refine ⟨?_, ?_, ?_⟩
        · simpa [hv] using hw
        · exact List.nodup_cons.2 ⟨fun hm => hn name hm (by simp), hd⟩
        · intro m hm
          rcases List.mem_cons.1 hm with rfl | hm
          · simpa using hs
          · exact fun hc => hn m hm (List.mem_cons_of_mem _ hc)

/-- The catalog of the given names, in their order. -/
def ofList (names : List String) : Except Fault Catalog :=
  match h : firstFault? [] names with
  | some fault => .error fault
  | none =>
    have sound := sound_of_firstFault?_eq_none h
    .ok ⟨names, sound.1, sound.2.1⟩

/-- The number of names. -/
def size (catalog : Catalog) : Nat := catalog.names.length

/-- Whether a name is listed. -/
def contains (catalog : Catalog) (name : String) : Bool := catalog.names.contains name

/-- The number of unordered pairs of distinct names. -/
def pairCount (catalog : Catalog) : Nat := catalog.size * (catalog.size - 1) / 2

end Catalog

end SqlReplay.Weights
