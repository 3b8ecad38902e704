import SqlReplay.Proofs.Config.Loading
import SqlReplay.Proofs.Config.Written
import SqlReplay.Proofs.Document.TomlNumbers

/-!
# Numbers too large for a configuration file

The numbers that a configuration file gives can be written in one.  So loaded settings have a number
that cannot exactly if a variable gives it (`hasHugeNumber_iff`).
-/

namespace SqlReplay.Config

variable {d node : Document}

theorem signed_of_settingNode? (hd : d.Signed) {place : Nat} {name : String}
    (h : settingNode? d place name = some node) : node.Signed := by
  cases hd with
  | list hitems => exact hitems node (List.mem_of_getElem? h)
  | record hfields =>
    obtain ⟨f, hfind, rfl⟩ := Option.map_eq_some_iff.1 h
    exact hfields f (List.mem_reverse.1 (List.mem_of_find?_eq_some hfind))
  | _ => cases h

theorem lt_of_word64? (hd : d.Signed) {n : UInt64} (h : word64? d = some n) :
    n.toNat < UInt64.size / 2 := by
  obtain ⟨m, hm, rfl⟩ := Option.map_eq_some_iff.1 h
  cases hd with
  | integer hn =>
    simp only [Document.natural?] at hm
    split at hm
    · cases hm
      have hsize : UInt64.size = 2 ^ 64 := rfl
      rw [UInt64.toNat_ofNat', Nat.mod_eq_of_lt]
      all_goals omega
    · cases hm
  | _ => cases hm

theorem lt_of_seed? (hd : d.Signed) {n : UInt64} (h : seed? d = some (some n)) :
    n.toNat < UInt64.size / 2 := by
  unfold seed? at h
  split at h
  · cases h
  · obtain ⟨m, hm, heq⟩ := Option.map_eq_some_iff.1 h
    cases heq
    exact lt_of_word64? hd hm

namespace Setting

/-- Whether a value is a number too large for a configuration file. -/
def IsHuge : (s : Setting) → s.Value → Prop
  | busyTimeoutMs, n => UInt64.size / 2 ≤ n.toNat
  | seed, given => ∃ n ∈ given, UInt64.size / 2 ≤ n.toNat
  | _, _ => False

theorem not_isHuge_default (home : Storage.Path) (s : Setting) :
    ¬ s.IsHuge (s.get (Config.default home)) := by
  cases s with
  | busyTimeoutMs => exact (by decide : ¬ UInt64.size / 2 ≤ (5000 : UInt64).toNat)
  | seed => rintro ⟨_, ⟨⟩, -⟩
  | _ => exact id

theorem isHuge_tidy {s : Setting} {v : s.Value} : s.IsHuge (s.tidy v) ↔ s.IsHuge v := by
  cases s <;> rfl

theorem not_isHuge_ofNode? {s : Setting} {v : s.Value} (hnode : node.Signed)
    (h : s.ofNode? node = some v) : ¬ s.IsHuge v := by
  cases s with
  | busyTimeoutMs => exact Nat.not_le_of_lt (lt_of_word64? hnode h)
  | seed =>
    rintro ⟨n, rfl, hn⟩
    exact Nat.not_le_of_lt (lt_of_seed? hnode h) hn
  | _ => exact id

end Setting

variable {env : Environment} {disk : Storage.Disk} {asked : Option Storage.Path} {c : Config}
  {file : Option Document}

theorem hasHugeNumber_iff_exists_isHuge :
    c.HasHugeNumber ↔ ∃ s : Setting, s.IsHuge (s.get c) := by
  constructor
  · rintro ⟨n, hn, hlarge⟩
    rcases List.mem_cons.1 hn with rfl | hseed
    · exact ⟨.busyTimeoutMs, hlarge⟩
    · exact ⟨.seed, n, Option.mem_toList.1 hseed, hlarge⟩
  · rintro ⟨s, hs⟩
    cases s with
    | busyTimeoutMs => exact ⟨_, List.mem_cons_self, hs⟩
    | seed =>
      obtain ⟨n, hn, hlarge⟩ := hs
      exact ⟨n, List.mem_cons_of_mem _ (Option.mem_toList.2 hn), hlarge⟩
    | _ => cases hs

/-- No number that is read from the file is too large for one. -/
theorem not_isHuge_inFile (hfile : IsFile env disk asked file) {s : Setting} {v : s.Value}
    (h : s.inFile file = some (some v)) : ¬ s.IsHuge v := by
  obtain ⟨d, hd, hsection⟩ := Option.bind_eq_some_iff.1 h
  obtain ⟨file, rfl, hd⟩ := Option.bind_eq_some_iff.1 hd
  obtain ⟨node, hnode, hread⟩ := Option.map_eq_some_iff.1 hsection
  obtain ⟨_, _, -, -, hparse⟩ := hfile
  have hsigned : d.Signed := signed_of_settingNode? (Toml.parse?_signed hparse) hd
  exact Setting.not_isHuge_ofNode? (signed_of_settingNode? hsigned hnode) hread

/-- Loaded settings have a number that is too large for a configuration file exactly if a variable
gives one. -/
theorem hasHugeNumber_iff (h : load env disk asked = .ok c) :
    c.HasHugeNumber ↔
      ∃ (s : Setting) (v : s.Value), s.inEnvironment env = some (some v) ∧ s.IsHuge v := by
  obtain ⟨file, hfile, hlayers, -⟩ := load_layers h
  rw [hasHugeNumber_iff_exists_isHuge]
  refine exists_congr fun s => ?_
  obtain ⟨v, hcounts, hget⟩ := hlayers s
  rw [hget, Setting.isHuge_tidy]
  constructor
  · intro hv
    rcases hcounts.mem with rfl | hmem
    · exact absurd hv (s.not_isHuge_default env.home)
    rcases List.mem_cons.1 hmem with henv | hmem
    · exact ⟨v, henv.symm, hv⟩
    · exact absurd hv (not_isHuge_inFile hfile (List.mem_singleton.1 hmem).symm)
  · rintro ⟨v', henv, hv'⟩
    rw [henv] at hcounts
    rwa [hcounts.unique (.said v' _)]

end SqlReplay.Config
