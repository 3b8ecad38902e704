import Mathlib.Tactic.SplitIfs
import SqlReplay.Text.Utf8

/-!
# Encoded text decodes

The bytes of a character are cut off as one piece, which stands for that character, whatever bytes
follow it (`pieces_encodeChar`).  So the bytes of a text are the text again once they are decoded
(`decode_encode`), and are shown as the text (`display_ofString`).  No other bytes decode to it
(`decode_eq_ok_iff`).
-/

namespace SqlReplay.Utf8

variable {lead second n : Nat}

theorem ofNat_eq_iff (h : n < 256) (b : UInt8) : UInt8.ofNat n = b ↔ n = b.toNat := by
  rw [← UInt8.toNat_inj, UInt8.toNat_ofNat_of_lt' h]

/-! ## Continuation bytes -/

theorem within_ofNat (h : n < 256) (lo hi : Nat) :
    within (UInt8.ofNat n) lo hi = true ↔ lo ≤ n ∧ n ≤ hi := by
  rw [within, UInt8.toNat_ofNat_of_lt' h]
  simp

theorem isContinuation_ofNat (n : Nat) : isContinuation (UInt8.ofNat (n % 64 + 128)) = true :=
  (within_ofNat (by omega) _ _).2 (by omega)

theorem low_ofNat (n : Nat) : low (UInt8.ofNat (n % 64 + 128)) = n % 64 := by
  have hbyte : n % 64 + 128 < 256 := by omega
  rw [low, UInt8.toNat_ofNat_of_lt' hbyte]
  omega

theorem isSecondOfThree_ofNat (hlead : lead < 256) (hfirst : lead = 224 → 32 ≤ n % 64)
    (hlast : lead = 237 → n % 64 < 32) :
    isSecondOfThree (UInt8.ofNat lead) (UInt8.ofNat (n % 64 + 128)) = true := by
  have hbyte : n % 64 + 128 < 256 := by omega
  unfold isSecondOfThree
  split_ifs with h h'
  · have hlow := hfirst ((ofNat_eq_iff hlead _).1 h)
    exact (within_ofNat hbyte _ _).2 (by omega)
  · have hhigh := hlast ((ofNat_eq_iff hlead _).1 h')
    exact (within_ofNat hbyte _ _).2 (by omega)
  · exact isContinuation_ofNat n

theorem isSecondOfFour_ofNat (hlead : lead < 256) (hfirst : lead = 240 → 16 ≤ n % 64)
    (hlast : lead = 244 → n % 64 < 16) :
    isSecondOfFour (UInt8.ofNat lead) (UInt8.ofNat (n % 64 + 128)) = true := by
  have hbyte : n % 64 + 128 < 256 := by omega
  unfold isSecondOfFour
  split_ifs with h h'
  · have hlow := hfirst ((ofNat_eq_iff hlead _).1 h)
    exact (within_ofNat hbyte _ _).2 (by omega)
  · have hhigh := hlast ((ofNat_eq_iff hlead _).1 h')
    exact (within_ofNat hbyte _ _).2 (by omega)
  · exact isContinuation_ofNat n

/-! ## Characters -/

/-- The bytes of a character are cut off as one piece. -/
theorem pieces_encodeChar (c : Char) (bs : Bytes) :
    pieces (String.utf8EncodeChar c ++ bs) = .char c :: pieces bs := by
  have hvalid : c.toNat < 0xD800 ∨ 0xDFFF < c.toNat ∧ c.toNat < 0x110000 := c.valid
  have hback : Char.ofNat c.toNat = c := Char.ofNat_toNat c
  have hcode : c.val.toNat = c.toNat := rfl
  rw [String.utf8EncodeChar, hcode]
  generalize c.toNat = v at hvalid hback
  split_ifs with h₁ h₂ h₃
  · have hlead : v < 256 := by omega
    rw [List.singleton_append, pieces.eq_def]
    dsimp only
    rw [UInt8.toNat_ofNat_of_lt' hlead, if_pos (by omega), hback]
  · have hlead : v / 64 % 32 + 192 < 256 := by omega
    have hsum : (v / 64 % 32 + 192) % 32 * 64 + v % 64 = v := by omega
    rw [List.cons_append, List.singleton_append, pieces.eq_def]
    dsimp only
    rw [UInt8.toNat_ofNat_of_lt' hlead, if_neg (by omega),
      if_pos ((within_ofNat hlead _ _).2 (by omega)), if_pos (isContinuation_ofNat v), low_ofNat,
      hsum, hback]
  · have hlead : v / 4096 % 16 + 224 < 256 := by omega
    have hsecond := isSecondOfThree_ofNat (n := v / 64) hlead (by omega) (by omega)
    have hsum : ((v / 4096 % 16 + 224) % 16 * 64 + v / 64 % 64) * 64 + v % 64 = v := by omega
    rw [List.cons_append, List.cons_append, List.singleton_append, pieces.eq_def]
    dsimp only
    rw [UInt8.toNat_ofNat_of_lt' hlead, if_neg (by omega),
      if_neg (by rw [within_ofNat hlead]; omega),
      if_pos ((within_ofNat hlead _ _).2 (by omega)), if_pos hsecond,
      if_pos (isContinuation_ofNat v), low_ofNat, low_ofNat, hsum, hback]
  · have hlead : v / 262144 % 8 + 240 < 256 := by omega
    have hsecond := isSecondOfFour_ofNat (n := v / 4096) hlead (by omega) (by omega)
    have hsum : (((v / 262144 % 8 + 240) % 8 * 64 + v / 4096 % 64) * 64 + v / 64 % 64) * 64 +
        v % 64 = v := by omega
    rw [List.cons_append, List.cons_append, List.cons_append, List.singleton_append,
      pieces.eq_def]
    dsimp only
    rw [UInt8.toNat_ofNat_of_lt' hlead, if_neg (by omega),
      if_neg (by rw [within_ofNat hlead]; omega),
      if_neg (by rw [within_ofNat hlead]; omega), if_pos ((within_ofNat hlead _ _).2 (by omega)),
      if_pos hsecond, if_pos (isContinuation_ofNat (v / 64)), if_pos (isContinuation_ofNat v),
      low_ofNat, low_ofNat, low_ofNat, hsum, hback]

/-- A byte below 128 occurs only in the encoding of the character that has its number. -/
theorem eq_of_mem_encodeChar {c : Char} {b : UInt8} (hb : b.toNat < 128)
    (h : b ∈ String.utf8EncodeChar c) : c.toNat = b.toNat := by
  have hhigh : ∀ {n : Nat}, 128 ≤ n → n < 256 → b ≠ UInt8.ofNat n := by
    rintro n hlow hn rfl
    rw [UInt8.toNat_ofNat_of_lt' hn] at hb
    omega
  have hcode : c.val.toNat = c.toNat := rfl
  rw [String.utf8EncodeChar, hcode] at h
  generalize c.toNat = v at h
  split_ifs at h with h₁ h₂ h₃
  · have hv : v < 256 := by omega
    rw [List.mem_singleton.1 h, UInt8.toNat_ofNat_of_lt' hv]
  all_goals simp only [List.mem_cons, List.not_mem_nil, or_false] at h
  · rcases h with h | h
    all_goals exact absurd h (hhigh (by omega) (by omega))
  · rcases h with h | h | h
    all_goals exact absurd h (hhigh (by omega) (by omega))
  · rcases h with h | h | h | h
    all_goals exact absurd h (hhigh (by omega) (by omega))

/-! ## Texts -/

theorem gather_pieces_encode (cs : List Char) (index : Nat) :
    gather index (pieces (encode cs)) = .ok cs := by
  induction cs generalizing index with
  | nil => rfl
  | cons c cs ih =>
    have hcons : encode (c :: cs) = String.utf8EncodeChar c ++ encode cs := rfl
    rw [hcons, pieces_encodeChar, gather, ih, Except.map]

theorem decode_encode (cs : List Char) : decode (encode cs) = .ok cs := gather_pieces_encode cs 0

theorem ofString_injective {a b : String} (h : ofString a = ofString b) : a = b := by
  have hback := congrArg decode h
  rw [ofString, ofString, decode_encode, decode_encode, Except.ok.injEq] at hback
  exact String.toList_inj.1 hback

theorem encode_append (cs cs' : List Char) : encode (cs ++ cs') = encode cs ++ encode cs' :=
  List.flatMap_append

theorem exists_of_mem_encode {cs : List Char} {b : UInt8} (hb : b.toNat < 128)
    (h : b ∈ encode cs) : ∃ c ∈ cs, c.toNat = b.toNat := by
  obtain ⟨c, hc, h⟩ := List.mem_flatMap.1 h
  exact ⟨c, hc, eq_of_mem_encodeChar hb h⟩

/-! ## Only encoded text decodes

The checks that cut bytes into characters leave to each character the bytes of its own encoding. -/

theorem within_iff {b : UInt8} {lo hi : Nat} :
    within b lo hi = true ↔ lo ≤ b.toNat ∧ b.toNat ≤ hi := by
  rw [within, Bool.and_eq_true, decide_eq_true_eq, decide_eq_true_eq]

theorem val_toNat_ofNat {v : Nat} (h : v < 0xD800 ∨ 0xDFFF < v ∧ v < 0x110000) :
    (Char.ofNat v).val.toNat = v := by
  rw [Char.ofNat, dif_pos h]
  rfl

theorem encodeChar_one {a : UInt8} (ha : a.toNat < 0x80) :
    String.utf8EncodeChar (Char.ofNat a.toNat) = [a] := by
  rw [String.utf8EncodeChar, val_toNat_ofNat (by omega), if_pos (by omega),
    (ofNat_eq_iff (by omega) a).2 rfl]

theorem encodeChar_two {a b : UInt8} (ha : within a 0xC2 0xDF = true)
    (hb : isContinuation b = true) :
    String.utf8EncodeChar (Char.ofNat (a.toNat % 32 * 64 + low b)) = [a, b] := by
  rw [within_iff] at ha
  rw [isContinuation, within_iff] at hb
  rw [String.utf8EncodeChar, low, val_toNat_ofNat (by omega),
    if_neg (by omega), if_pos (by omega), (ofNat_eq_iff (by omega) a).2 (by omega),
    (ofNat_eq_iff (by omega) b).2 (by omega)]

/-- The range of a second byte that is narrower after two of the first bytes. -/
theorem second_bounds {a b x y : UInt8} {lo hi : Nat} (hxy : x ≠ y) (hlo : 0x80 ≤ lo)
    (hhi : hi ≤ 0xBF)
    (h : (if a = x then within b lo 0xBF else if a = y then within b 0x80 hi
      else isContinuation b) = true) :
    0x80 ≤ b.toNat ∧ b.toNat ≤ 0xBF ∧ (a.toNat = x.toNat → lo ≤ b.toNat) ∧
      (a.toNat = y.toNat → b.toNat ≤ hi) := by
  rw [UInt8.toNat_inj, UInt8.toNat_inj]
  split_ifs at h with h₁ h₂
  · rw [within_iff] at h
    exact ⟨by omega, h.2, fun _ => h.1, fun h₂ => absurd (h₁.symm.trans h₂) hxy⟩
  · rw [within_iff] at h
    exact ⟨h.1, by omega, fun h₁' => absurd h₁' h₁, fun _ => h.2⟩
  · rw [isContinuation, within_iff] at h
    exact ⟨h.1, h.2, fun h₁' => absurd h₁' h₁, fun h₂' => absurd h₂' h₂⟩

theorem encodeChar_three {a b c : UInt8} (ha : within a 0xE0 0xEF = true)
    (hb : isSecondOfThree a b = true) (hc : isContinuation c = true) :
    String.utf8EncodeChar (Char.ofNat ((a.toNat % 16 * 64 + low b) * 64 + low c)) = [a, b, c] := by
  rw [within_iff] at ha
  obtain ⟨hlow, hhigh, hfirst, hlast⟩ : 0x80 ≤ b.toNat ∧ b.toNat ≤ 0xBF ∧
      (a.toNat = 0xE0 → 0xA0 ≤ b.toNat) ∧ (a.toNat = 0xED → b.toNat ≤ 0x9F) :=
    second_bounds (by decide) (by decide) (by decide) hb
  rw [isContinuation, within_iff] at hc
  rw [String.utf8EncodeChar, low, low, val_toNat_ofNat (by omega),
    if_neg (by omega), if_neg (by omega), if_pos (by omega),
    (ofNat_eq_iff (by omega) a).2 (by omega), (ofNat_eq_iff (by omega) b).2 (by omega),
    (ofNat_eq_iff (by omega) c).2 (by omega)]

theorem encodeChar_four {a b c d : UInt8} (ha : within a 0xF0 0xF4 = true)
    (hb : isSecondOfFour a b = true) (hc : isContinuation c = true)
    (hd : isContinuation d = true) :
    String.utf8EncodeChar
      (Char.ofNat (((a.toNat % 8 * 64 + low b) * 64 + low c) * 64 + low d)) = [a, b, c, d] := by
  rw [within_iff] at ha
  obtain ⟨hlow, hhigh, hfirst, hlast⟩ : 0x80 ≤ b.toNat ∧ b.toNat ≤ 0xBF ∧
      (a.toNat = 0xF0 → 0x90 ≤ b.toNat) ∧ (a.toNat = 0xF4 → b.toNat ≤ 0x8F) :=
    second_bounds (by decide) (by decide) (by decide) hb
  rw [isContinuation, within_iff] at hc hd
  rw [String.utf8EncodeChar, low, low, low, val_toNat_ofNat (by omega),
    if_neg (by omega), if_neg (by omega), if_neg (by omega),
    (ofNat_eq_iff (by omega) a).2 (by omega), (ofNat_eq_iff (by omega) b).2 (by omega),
    (ofNat_eq_iff (by omega) c).2 (by omega), (ofNat_eq_iff (by omega) d).2 (by omega)]

/-- A character and the text after it were encoded one after the other. -/
theorem encode_of_gather_char {index : Nat} {c : Char} {bs rest : Bytes} {cs : List Char}
    (hc : String.utf8EncodeChar c = bs)
    (ih : ∀ {index : Nat} {cs : List Char}, gather index (pieces rest) = .ok cs → encode cs = rest)
    (h : gather index (.char c :: pieces rest) = .ok cs) : encode cs = bs ++ rest := by
  rw [gather] at h
  cases hrest : gather (index + c.utf8Size) (pieces rest) with
  | error fault =>
    rw [hrest] at h
    cases h
  | ok cs' =>
    rw [hrest] at h
    cases h
    rw [encode, List.flatMap_cons, hc]
    exact congrArg (bs ++ ·) (ih hrest)

theorem encode_of_gather {bs : Bytes} {index : Nat} {cs : List Char}
    (h : gather index (pieces bs) = .ok cs) : encode cs = bs := by
  fun_induction pieces bs generalizing index cs with
  | case1 =>
    cases h
    rfl
  | case2 a as ha ih => exact encode_of_gather_char (encodeChar_one ha) ih h
  | case4 a _ ha b _ hb ih => exact encode_of_gather_char (encodeChar_two ha hb) ih h
  | case8 a _ _ ha b hb c _ hc ih =>
    exact encode_of_gather_char (encodeChar_three ha hb hc) ih h
  | case14 a _ _ _ ha b hb c hc d _ hd ih =>
    exact encode_of_gather_char (encodeChar_four ha hb hc hd) ih h
  | _ => cases h

/-- Only what a text is encoded as decodes to it. -/
theorem decode_eq_ok_iff {bs : Bytes} {cs : List Char} : decode bs = .ok cs ↔ bs = encode cs := by
  constructor
  · intro h
    exact (encode_of_gather h).symm
  · rintro rfl
    exact decode_encode cs

theorem decode?_eq_some_iff {bs : Bytes} {s : String} : decode? bs = some s ↔ bs = ofString s := by
  rw [ofString, ← decode_eq_ok_iff, decode?]
  cases decode bs with
  | error fault => simp
  | ok cs =>
    rw [Option.some.injEq, Except.ok.injEq]
    constructor
    · rintro rfl
      exact String.toList_ofList.symm
    · rintro rfl
      exact String.ofList_toList

/-! ## Display -/

theorem map_shown_pieces_encode (cs : List Char) : (pieces (encode cs)).map Piece.shown = cs := by
  induction cs with
  | nil => rfl
  | cons c cs ih =>
    have hcut : pieces (encode (c :: cs)) = .char c :: pieces (encode cs) :=
      pieces_encodeChar c (encode cs)
    rw [hcut, List.map_cons, ih, Piece.shown]

/-- The bytes of a text are shown as the text. -/
theorem display_ofString (s : String) : display (ofString s) = s := by
  rw [display, ofString, map_shown_pieces_encode, String.ofList_toList]

/-- A byte of ASCII at the end is a piece of its own, whatever bytes are before it. -/
theorem char_suffix_pieces (bs : Bytes) {b : UInt8} (hb : b.toNat < 128) :
    [.char (Char.ofNat b.toNat)] <:+ pieces (bs ++ [b]) := by
  have hno (lo hi : Nat) (hlo : 128 ≤ lo) : within b lo hi = false := by
    simp only [within, Bool.and_eq_false_iff, decide_eq_false_iff_not]
    omega
  have hlast : isContinuation b = false := hno _ _ (by decide)
  have hthree (a : UInt8) : isSecondOfThree a b = false := by
    unfold isSecondOfThree isContinuation
    split_ifs <;> exact hno _ _ (by decide)
  have hfour (a : UInt8) : isSecondOfFour a b = false := by
    unfold isSecondOfFour isContinuation
    split_ifs <;> exact hno _ _ (by decide)
  have hone : pieces [b] = [.char (Char.ofNat b.toNat)] := by simp [pieces, hb]
  -- The byte breaks what was cut short before it; all else is cut off as if it were not there.
  fun_induction pieces bs with
  | case1 => simp [hone]
  | _ =>
    simp only [List.cons_append, List.nil_append] at *
    unfold pieces
    simp [*, List.suffix_cons_iff]

theorem getLast?_display_concat (bs : Bytes) {b : UInt8} (hb : b.toNat < 128) :
    (display (bs ++ [b])).toList.getLast? = some (Char.ofNat b.toNat) := by
  obtain ⟨ps, hps⟩ := char_suffix_pieces bs hb
  rw [display, String.toList_ofList, ← hps, List.map_append, List.map_singleton, Piece.shown,
    List.getLast?_concat]

end SqlReplay.Utf8
