import SqlReplay.Proofs.Storage.Directory

/-!
# Paths beside a path

Bytes put after the end of a path are put after its last component.  A file that stands where such a
path leads has a name that ends in these bytes (`Disk.name_of_seat?_withSuffix`), so it is another
one than the file at the path itself (`Disk.seat?_withSuffix_ne`).
-/

namespace SqlReplay.Storage

namespace Path

/-- Bytes are a last stretch without slashes, after nothing or after a slash. -/
theorem exists_last_stretch (bytes : Bytes) :
    ∃ last, slash ∉ last ∧ (bytes = last ∨ ∃ front, bytes = front ++ slash :: last) := by
  induction bytes with
  | nil => exact ⟨[], List.not_mem_nil, .inl rfl⟩
  | cons b bs ih =>
    obtain ⟨last, hlast, rfl | ⟨front, rfl⟩⟩ := ih
    · by_cases hb : b = slash
      · exact ⟨bs, hlast, .inr ⟨[], by rw [hb, List.nil_append]⟩⟩
      · refine ⟨b :: bs, ?_, .inl rfl⟩
        rw [List.mem_cons, not_or]
        exact ⟨fun heq => hb heq.symm, hlast⟩
    · exact ⟨last, hlast, .inr ⟨b :: front, rfl⟩⟩

/-- What comes before the last stretch stays as it is when bytes are put after it. -/
theorem exists_cutFrom_append (bytes : Bytes) :
    ∃ fronts last, (last = [] → bytes = [] ∨ bytes.getLast? = some slash) ∧
      ∀ suffix, slash ∉ suffix → cutFrom [] (bytes ++ suffix) = fronts ++ [last ++ suffix] := by
  obtain ⟨last, hlast, hbytes⟩ := exists_last_stretch bytes
  have hmore : ∀ suffix, slash ∉ suffix → slash ∉ last ++ suffix := by
    intro suffix hsuffix
    rw [List.mem_append, not_or]
    exact ⟨hlast, hsuffix⟩
  rcases hbytes with rfl | ⟨front, rfl⟩
  · refine ⟨[], bytes, .inl, fun suffix hsuffix => ?_⟩
    rw [cutFrom_of_not_mem (hmore suffix hsuffix), List.reverse_nil, List.nil_append,
      List.nil_append]
  · refine ⟨cutFrom [] front, last, ?_, fun suffix hsuffix => ?_⟩
    · rintro rfl
      exact .inr List.getLast?_concat
    · rw [List.append_assoc, List.cons_append, cutFrom_append_slash,
        cutFrom_of_not_mem (hmore suffix hsuffix), List.reverse_nil, List.nil_append]

variable {p : Path} {suffix : String}

theorem getLast?_components_withSuffix (p : Path) (hslash : slash ∉ Utf8.ofString suffix)
    (hne : Utf8.ofString suffix ≠ []) :
    ∃ last, (p.withSuffix suffix).components.getLast? = some (last ++ Utf8.ofString suffix) ∧
      (p.isEmpty = false → p.hasTrailingSlash = false → p.components.getLast? = some last) := by
  obtain ⟨fronts, last, hlast, hcut⟩ := exists_cutFrom_append p.bytes
  have hkeep : ∀ suffix, slash ∉ suffix → last ++ suffix ≠ [] →
      ((cutFrom [] (p.bytes ++ suffix)).filter fun c => !c.isEmpty).getLast? =
        some (last ++ suffix) := by
    intro suffix hsuffix hfull
    have hfilled : [last ++ suffix].filter (fun c => !c.isEmpty) = [last ++ suffix] := by
      rw [List.filter_eq_self, List.forall_mem_singleton, Bool.not_eq_true',
        List.isEmpty_eq_false_iff]
      exact hfull
    rw [hcut suffix hsuffix, List.filter_append, hfilled, List.getLast?_concat]
  refine ⟨last, hkeep _ hslash (List.append_ne_nil_of_right_ne_nil last hne), fun hfull hend => ?_⟩
  have hsame := hkeep [] List.not_mem_nil
  rw [List.append_nil, List.append_nil] at hsame
  refine hsame fun hnil => ?_
  rcases hlast hnil with hempty | htrailing
  · rw [isEmpty, hempty] at hfull
    cases hfull
  · rw [hasTrailingSlash, htrailing] at hend
    simp at hend

end Path

namespace Disk

variable {d e : Disk} {p : Path} {suffix : String} {place : Location}

theorem name_of_walk_seat? {here : Location} {names : List Name}
    (h : (d.walk here names).toOption.bind Spot.seat? = some place) :
    ∃ name dir, place = name :: dir ∧ names.getLast? = some name := by
  induction names generalizing here with
  | nil => cases h
  | cons name rest ih =>
    have hrest : ∀ {here : Location},
        (d.walk here rest).toOption.bind Spot.seat? = some place →
          ∃ n dir, place = n :: dir ∧ (name :: rest).getLast? = some n := by
      intro here hwalk
      obtain ⟨n, dir, hplace, hlast⟩ := ih hwalk
      exact ⟨n, dir, hplace, by rw [List.getLast?_cons, hlast, Option.getD_some]⟩
    simp only [walk] at h
    split_ifs at h with hdot hup hlong hlast
    · exact hrest h
    · exact hrest h
    · cases h
    · obtain rfl := List.isEmpty_iff.1 hlast
      have hplace : place = name :: here := by
        split at h
        · cases h
        · exact (Option.some.inj h).symm
        · exact (Option.some.inj h).symm
      exact ⟨name, here, hplace, rfl⟩
    · split at h
      · exact hrest h
      · cases h
      · cases h

/-- The last component of a path is the name of the file there. -/
theorem name_of_seat? (h : d.seat? p = some place) :
    p.isEmpty = false ∧ ∃ name dir, place = name :: dir ∧ p.components.getLast? = some name := by
  unfold seat? locate at h
  split_ifs at h with hzero hempty
  all_goals first | cases h | exact ⟨Bool.eq_false_iff.2 hempty, name_of_walk_seat? h⟩

theorem name_of_seat?_withSuffix (hslash : Path.slash ∉ Utf8.ofString suffix)
    (hne : Utf8.ofString suffix ≠ []) (h : d.seat? (p.withSuffix suffix) = some place) :
    ∃ last dir, place = (last ++ Utf8.ofString suffix) :: dir := by
  obtain ⟨last, hlast, -⟩ := Path.getLast?_components_withSuffix p hslash hne
  obtain ⟨-, name, dir, rfl, hname⟩ := name_of_seat? h
  rw [hlast] at hname
  cases hname
  exact ⟨last, dir, rfl⟩

/-- Bytes put after a path lead to another place, on whatever disk. -/
theorem seat?_withSuffix_ne (hslash : Path.slash ∉ Utf8.ofString suffix)
    (hne : Utf8.ofString suffix ≠ []) (hp : p.hasTrailingSlash = false)
    (h : d.seat? p = some place) : e.seat? (p.withSuffix suffix) ≠ some place := by
  intro hbeside
  obtain ⟨last, hlast, hown⟩ := Path.getLast?_components_withSuffix p hslash hne
  obtain ⟨hfull, name, dir, rfl, hname⟩ := name_of_seat? h
  obtain ⟨-, name', dir', heq, hname'⟩ := name_of_seat? hbeside
  rw [hown hfull hp] at hname
  rw [hlast] at hname'
  cases heq
  cases hname
  exact hne (List.append_right_eq_self.1 (Option.some.inj hname'))

end Disk

end SqlReplay.Storage
