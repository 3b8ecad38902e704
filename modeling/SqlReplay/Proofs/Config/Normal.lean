import Mathlib.Data.List.Basic
import SqlReplay.Config.Check
import SqlReplay.Proofs.Storage.Directory
import SqlReplay.Proofs.Text.Utf8

/-!
# What normalising does to a directory

A directory loses the slash at its end and nothing else (`withoutSlash`), if it is spelled by a text
(`normalDirectory_ofString`) or is the usual one (`normalDirectory_default`).  Any other directory
is first put as it is shown.
-/

namespace SqlReplay.Config

open Storage

/-- A path without the slash at its end, unless the slash is all there is. -/
def withoutSlash (p : Path) : Path :=
  if 1 < p.bytes.length ∧ p.hasTrailingSlash then ⟨p.bytes.dropLast⟩ else p

theorem encode_slash : Utf8.encode ['/'] = [Path.slash] := by decide

/-- Only the slash is written with the byte of the slash at the end. -/
theorem getLast?_encode_ne_slash {c : Char} (hc : c ≠ '/') (cs : List Char) :
    (Utf8.encode (cs ++ [c])).getLast? ≠ some Path.slash := by
  intro hlast
  have hne : Utf8.encode [c] ≠ [] := by
    rw [Utf8.encode, List.flatMap_singleton]
    exact String.utf8EncodeChar_ne_nil
  rw [Utf8.encode_append, List.getLast?_append_of_ne_nil _ hne] at hlast
  obtain ⟨c', hmem, hcode⟩ := Utf8.exists_of_mem_encode (by decide) (List.mem_of_getLast? hlast)
  obtain rfl := List.mem_singleton.1 hmem
  exact hc (Char.toNat_inj.1 hcode)

theorem normalDirectory_ofString (s : String) :
    normalDirectory (.ofString s) = withoutSlash (.ofString s) := by
  have hshown : (Path.ofString s).display.toList = s.toList :=
    congrArg String.toList (Utf8.display_ofString s)
  have hbytes : (Path.ofString s).bytes = Utf8.encode s.toList := rfl
  rw [normalDirectory, withoutSlash, hshown, Path.hasTrailingSlash, hbytes]
  rcases List.eq_nil_or_concat s.toList with hnil | ⟨init, c, hconcat⟩
  · rw [hnil]
    rfl
  rw [hconcat, List.concat_eq_append]
  by_cases hc : c = '/'
  · subst hc
    simp [Utf8.encode_append, encode_slash]
  · have hlast := getLast?_encode_ne_slash hc init
    simp [hc, hlast]

/-- A path whose last byte is one of ASCII and no slash stays as it is. -/
theorem normalDirectory_concat {p : Path} {bs : Bytes} {b : UInt8} (hb : b.toNat < 128)
    (hchar : Char.ofNat b.toNat ≠ '/') (hp : p.bytes = bs ++ [b]) : normalDirectory p = p := by
  have hshown : p.display.toList.getLast? = some (Char.ofNat b.toNat) := by
    rw [Path.display, hp]
    exact Utf8.getLast?_display_concat bs hb
  rw [normalDirectory, hshown]
  simp [hchar]

theorem entryName_targets : Path.EntryName (Utf8.ofString "targets") :=
  ⟨by decide, by decide, by decide, by decide, by decide⟩

/-- The usual directory has no slash at its end, whatever the home directory is. -/
theorem normalDirectory_default (home : Path) :
    normalDirectory (Config.default home).target.dataDir =
      withoutSlash (Config.default home).target.dataDir := by
  have hslash : (Config.default home).target.dataDir.hasTrailingSlash = false :=
    entryName_targets.hasTrailingSlash_join (dataHome home)
  obtain ⟨bs, hbytes⟩ : ∃ bs, (Config.default home).target.dataDir.bytes =
      bs ++ Utf8.ofString "targets" := by
    rcases entryName_targets.join_bytes (dataHome home) with ⟨hbytes, -⟩ | hbytes
    · exact ⟨_, hbytes⟩
    · exact ⟨_, hbytes.trans (List.append_cons _ _ _)⟩
  have hlast : (Config.default home).target.dataDir.bytes =
      (bs ++ Utf8.ofString "target") ++ [115] :=
    hbytes.trans (List.append_assoc bs (Utf8.ofString "target") [115]).symm
  rw [normalDirectory_concat (by decide) (by decide) hlast, withoutSlash, if_neg]
  rw [hslash]
  simp

end SqlReplay.Config
