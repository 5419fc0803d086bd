import TraceHeaders.Text.Ascii
import TraceHeaders.Text.Utf8

/-!
Decoding undoes encoding, and what is decoded was encoded.  Each of the four lengths of a sequence is read
by a branch of its own, and the bounds that a branch puts on the second byte hold because a character is
no surrogate, lies in the last plane at most and is encoded in its shortest form.
-/

namespace TraceHeaders.Text

theorem toNat_ofNat_of_lt {n : Nat} (h : n < 256) : (UInt8.ofNat n).toNat = n := by
  rw [UInt8.toNat_ofNat', Nat.mod_eq_of_lt h]

theorem toNat_of_mem_utf8EncodeChar {c : Char} {b : UInt8} (h : b ∈ String.utf8EncodeChar c) :
    b.toNat = c.toNat ∨ 0x80 ≤ b.toNat := by
  rw [String.utf8EncodeChar] at h
  split at h
  · rw [List.mem_singleton.mp h]
    exact .inl (toNat_ofNat_of_lt (by omega))
  · have hlarge (n : Nat) (hn : 0x80 ≤ n % 256) : 0x80 ≤ (UInt8.ofNat n).toNat := by
      rwa [UInt8.toNat_ofNat']
    right
    split at h
    · simp only [List.mem_cons, List.not_mem_nil, or_false] at h
      rcases h with rfl | rfl <;> exact hlarge _ (by omega)
    · split at h
      · simp only [List.mem_cons, List.not_mem_nil, or_false] at h
        rcases h with rfl | rfl | rfl <;> exact hlarge _ (by omega)
      · simp only [List.mem_cons, List.not_mem_nil, or_false] at h
        rcases h with rfl | rfl | rfl | rfl <;> exact hlarge _ (by omega)

theorem ne_of_mem_utf8EncodeChar {c d : Char} (hd : isAscii d = true) (hne : c ≠ d) {b : UInt8}
    (h : b ∈ String.utf8EncodeChar c) : b ≠ UInt8.ofNat d.toNat := by
  rw [isAscii, decide_eq_true_eq] at hd
  rintro rfl
  have hcases := toNat_of_mem_utf8EncodeChar h
  rw [toNat_ofNat_of_lt (by omega)] at hcases
  rcases hcases with hcode | hlarge
  · exact hne (Char.toNat_inj.mp hcode.symm)
  · omega

theorem utf8EncodeChar_of_isAscii {c : Char} (h : isAscii c = true) :
    String.utf8EncodeChar c = [UInt8.ofNat c.toNat] := by
  rw [isAscii, decide_eq_true_eq] at h
  rw [String.utf8EncodeChar]
  exact if_pos (Nat.le_of_lt_succ h)

theorem isContinuation_ofNat (n : Nat) : isContinuation (UInt8.ofNat (n % 64 + 0x80)) = true := by
  have hbyte : (UInt8.ofNat (n % 64 + 0x80)).toNat = n % 64 + 0x80 := toNat_ofNat_of_lt (by omega)
  simp only [isContinuation, Bool.and_eq_true, decide_eq_true_eq, UInt8.le_iff_toNat_le, hbyte,
    UInt8.reduceToNat]
  omega

theorem lowBits_ofNat (n : Nat) : lowBits (UInt8.ofNat (n % 64 + 0x80)) = n % 64 := by
  rw [lowBits, toNat_ofNat_of_lt (by omega)]
  omega

theorem decodeUtf8From_one {n : Nat} (h : n ≤ 0x7F) (index : Nat) (rest : List UInt8) :
    decodeUtf8From index (UInt8.ofNat n :: rest) =
      (decodeUtf8From (index + 1) rest).map (Char.ofNat n :: ·) := by
  have hfirst : (UInt8.ofNat n).toNat = n := toNat_ofNat_of_lt (by omega)
  have hascii : UInt8.ofNat n < 0x80 := by
    simp only [UInt8.lt_iff_toNat_lt, hfirst, UInt8.reduceToNat]
    omega
  rw [decodeUtf8From.eq_def]
  simp only [if_pos hascii, hfirst]

theorem decodeUtf8From_two {n : Nat} (hlow : 0x80 ≤ n) (hhigh : n ≤ 0x7FF) (index : Nat)
    (rest : List UInt8) :
    decodeUtf8From index
        (UInt8.ofNat (n / 64 % 32 + 0xC0) :: UInt8.ofNat (n % 64 + 0x80) :: rest) =
      (decodeUtf8From (index + 2) rest).map (Char.ofNat n :: ·) := by
  have hfirst : (UInt8.ofNat (n / 64 % 32 + 0xC0)).toNat = n / 64 % 32 + 0xC0 :=
    toNat_ofNat_of_lt (by omega)
  have hascii : ¬ UInt8.ofNat (n / 64 % 32 + 0xC0) < 0x80 := by
    simp only [UInt8.lt_iff_toNat_lt, hfirst, UInt8.reduceToNat]
    omega
  have htwo : (0xC2 ≤ UInt8.ofNat (n / 64 % 32 + 0xC0) &&
      UInt8.ofNat (n / 64 % 32 + 0xC0) ≤ 0xDF) = true := by
    simp only [Bool.and_eq_true, decide_eq_true_eq, UInt8.le_iff_toNat_le, hfirst,
      UInt8.reduceToNat]
    omega
  have hsum : (n / 64 % 32 + 0xC0) % 32 * 64 + n % 64 = n := by omega
  rw [decodeUtf8From.eq_def]
  simp only [if_neg hascii, htwo, hfirst, lowBits_ofNat, isContinuation_ofNat, hsum, if_true]

/-- The second byte says whether the form is the shortest one and no surrogate. -/
theorem isSecondOfThree_ofNat {n : Nat} (hlow : 0x800 ≤ n) (hhigh : n ≤ 0xFFFF)
    (hvalid : n < 0xD800 ∨ 0xDFFF < n) :
    isSecondOfThree (UInt8.ofNat (n / 4096 % 16 + 0xE0)) (UInt8.ofNat (n / 64 % 64 + 0x80)) =
      true := by
  have hfirst : (UInt8.ofNat (n / 4096 % 16 + 0xE0)).toNat = n / 4096 % 16 + 0xE0 :=
    toNat_ofNat_of_lt (by omega)
  have hsecond : (UInt8.ofNat (n / 64 % 64 + 0x80)).toNat = n / 64 % 64 + 0x80 :=
    toNat_ofNat_of_lt (by omega)
  simp only [isSecondOfThree, Bool.and_eq_true, decide_eq_true_eq, UInt8.le_iff_toNat_le, hsecond,
    beq_iff_eq, ← UInt8.toNat_inj, hfirst, UInt8.reduceToNat, apply_ite UInt8.toNat]
  constructor <;> split <;> omega

theorem decodeUtf8From_three {n : Nat} (hlow : 0x800 ≤ n) (hhigh : n ≤ 0xFFFF)
    (hvalid : n < 0xD800 ∨ 0xDFFF < n) (index : Nat) (rest : List UInt8) :
    decodeUtf8From index (UInt8.ofNat (n / 4096 % 16 + 0xE0) ::
        UInt8.ofNat (n / 64 % 64 + 0x80) :: UInt8.ofNat (n % 64 + 0x80) :: rest) =
      (decodeUtf8From (index + 3) rest).map (Char.ofNat n :: ·) := by
  have hsecond := isSecondOfThree_ofNat hlow hhigh hvalid
  have hfirst : (UInt8.ofNat (n / 4096 % 16 + 0xE0)).toNat = n / 4096 % 16 + 0xE0 :=
    toNat_ofNat_of_lt (by omega)
  have hascii : ¬ UInt8.ofNat (n / 4096 % 16 + 0xE0) < 0x80 := by
    simp only [UInt8.lt_iff_toNat_lt, hfirst, UInt8.reduceToNat]
    omega
  have htwo : ¬ (0xC2 ≤ UInt8.ofNat (n / 4096 % 16 + 0xE0) &&
      UInt8.ofNat (n / 4096 % 16 + 0xE0) ≤ 0xDF) = true := by
    simp only [Bool.and_eq_true, decide_eq_true_eq, UInt8.le_iff_toNat_le, hfirst,
      UInt8.reduceToNat]
    omega
  have hthree : (0xE0 ≤ UInt8.ofNat (n / 4096 % 16 + 0xE0) &&
      UInt8.ofNat (n / 4096 % 16 + 0xE0) ≤ 0xEF) = true := by
    simp only [Bool.and_eq_true, decide_eq_true_eq, UInt8.le_iff_toNat_le, hfirst,
      UInt8.reduceToNat]
    omega
  have hsum : (n / 4096 % 16 + 0xE0) % 16 * 4096 + n / 64 % 64 * 64 + n % 64 = n := by omega
  rw [decodeUtf8From.eq_def]
  simp only [if_neg hascii, if_neg htwo, hthree, hsecond, hfirst, lowBits_ofNat,
    isContinuation_ofNat, hsum, if_true]

/-- The second byte says whether the form is the shortest one and in the last plane at most. -/
theorem isSecondOfFour_ofNat {n : Nat} (hlow : 0x10000 ≤ n) (hhigh : n ≤ 0x10FFFF) :
    isSecondOfFour (UInt8.ofNat (n / 262144 % 8 + 0xF0)) (UInt8.ofNat (n / 4096 % 64 + 0x80)) =
      true := by
  have hfirst : (UInt8.ofNat (n / 262144 % 8 + 0xF0)).toNat = n / 262144 % 8 + 0xF0 :=
    toNat_ofNat_of_lt (by omega)
  have hsecond : (UInt8.ofNat (n / 4096 % 64 + 0x80)).toNat = n / 4096 % 64 + 0x80 :=
    toNat_ofNat_of_lt (by omega)
  simp only [isSecondOfFour, Bool.and_eq_true, decide_eq_true_eq, UInt8.le_iff_toNat_le, hsecond,
    beq_iff_eq, ← UInt8.toNat_inj, hfirst, UInt8.reduceToNat, apply_ite UInt8.toNat]
  constructor <;> split <;> omega

theorem decodeUtf8From_four {n : Nat} (hlow : 0x10000 ≤ n) (hhigh : n ≤ 0x10FFFF) (index : Nat)
    (rest : List UInt8) :
    decodeUtf8From index (UInt8.ofNat (n / 262144 % 8 + 0xF0) ::
        UInt8.ofNat (n / 4096 % 64 + 0x80) :: UInt8.ofNat (n / 64 % 64 + 0x80) ::
          UInt8.ofNat (n % 64 + 0x80) :: rest) =
      (decodeUtf8From (index + 4) rest).map (Char.ofNat n :: ·) := by
  have hsecond := isSecondOfFour_ofNat hlow hhigh
  have hfirst : (UInt8.ofNat (n / 262144 % 8 + 0xF0)).toNat = n / 262144 % 8 + 0xF0 :=
    toNat_ofNat_of_lt (by omega)
  have hascii : ¬ UInt8.ofNat (n / 262144 % 8 + 0xF0) < 0x80 := by
    simp only [UInt8.lt_iff_toNat_lt, hfirst, UInt8.reduceToNat]
    omega
  have htwo : ¬ (0xC2 ≤ UInt8.ofNat (n / 262144 % 8 + 0xF0) &&
      UInt8.ofNat (n / 262144 % 8 + 0xF0) ≤ 0xDF) = true := by
    simp only [Bool.and_eq_true, decide_eq_true_eq, UInt8.le_iff_toNat_le, hfirst,
      UInt8.reduceToNat]
    omega
  have hthree : ¬ (0xE0 ≤ UInt8.ofNat (n / 262144 % 8 + 0xF0) &&
      UInt8.ofNat (n / 262144 % 8 + 0xF0) ≤ 0xEF) = true := by
    simp only [Bool.and_eq_true, decide_eq_true_eq, UInt8.le_iff_toNat_le, hfirst,
      UInt8.reduceToNat]
    omega
  have hfour : (0xF0 ≤ UInt8.ofNat (n / 262144 % 8 + 0xF0) &&
      UInt8.ofNat (n / 262144 % 8 + 0xF0) ≤ 0xF4) = true := by
    simp only [Bool.and_eq_true, decide_eq_true_eq, UInt8.le_iff_toNat_le, hfirst,
      UInt8.reduceToNat]
    omega
  have hsum : (n / 262144 % 8 + 0xF0) % 8 * 262144 + n / 4096 % 64 * 4096 + n / 64 % 64 * 64 +
      n % 64 = n := by omega
  rw [decodeUtf8From.eq_def]
  simp only [if_neg hascii, if_neg htwo, if_neg hthree, hfour, hsecond, hfirst, lowBits_ofNat,
    isContinuation_ofNat, hsum, if_true]

theorem decodeUtf8From_encodeChar (c : Char) (index : Nat) (rest : List UInt8) :
    ∃ next, decodeUtf8From index (String.utf8EncodeChar c ++ rest) =
      (decodeUtf8From next rest).map (c :: ·) := by
  have hvalid : c.val.toNat < 0xD800 ∨ 0xDFFF < c.val.toNat ∧ c.val.toNat < 0x110000 := c.valid
  have hchar : Char.ofNat c.val.toNat = c := Char.ofNat_toNat c
  suffices h : ∃ next, decodeUtf8From index (String.utf8EncodeChar c ++ rest) =
      (decodeUtf8From next rest).map (Char.ofNat c.val.toNat :: ·) by
    rwa [hchar] at h
  rw [String.utf8EncodeChar]
  split
  · rename_i hone
    exact ⟨index + 1, decodeUtf8From_one hone index rest⟩
  · rename_i hone
    split
    · rename_i htwo
      exact ⟨index + 2, decodeUtf8From_two (Nat.lt_of_not_le hone) htwo index rest⟩
    · rename_i htwo
      split
      · rename_i hthree
        exact ⟨index + 3,
          decodeUtf8From_three (Nat.lt_of_not_le htwo) hthree (by omega) index rest⟩
      · rename_i hthree
        exact ⟨index + 4, decodeUtf8From_four (Nat.lt_of_not_le hthree) (by omega) index rest⟩

theorem utf8_cons (c : Char) (cs : List Char) :
    utf8 (c :: cs) = String.utf8EncodeChar c ++ utf8 cs := rfl

theorem decodeUtf8From_utf8 (cs : List Char) (index : Nat) :
    decodeUtf8From index (utf8 cs) = .ok cs := by
  -- The index only serves the report of an error, so it is general.
  induction cs generalizing index with
  | nil => rfl
  | cons c cs ih =>
      obtain ⟨next, hnext⟩ := decodeUtf8From_encodeChar c index (utf8 cs)
      rw [utf8_cons, hnext, ih]
      rfl

@[simp] theorem decodeUtf8_utf8 (cs : List Char) : decodeUtf8 (utf8 cs) = .ok cs :=
  decodeUtf8From_utf8 cs 0

theorem toNat_ofNat_of_isValidChar {n : Nat} (h : n.isValidChar) : (Char.ofNat n).toNat = n := by
  rw [Char.ofNat, dif_pos h]
  rfl

theorem ofNat_of_toNat_eq {b : UInt8} {n : Nat} (h : b.toNat = n) : UInt8.ofNat n = b := by
  rw [← h, UInt8.ofNat_toNat]

theorem isContinuation_bounds {b : UInt8} (h : isContinuation b = true) :
    b.toNat = lowBits b + 0x80 ∧ lowBits b < 64 := by
  simp only [isContinuation, Bool.and_eq_true, decide_eq_true_eq, UInt8.le_iff_toNat_le,
    UInt8.reduceToNat] at h
  rw [lowBits]
  omega

theorem isSecondOfThree_bounds {a b : UInt8} (ha : 0xE0 ≤ a.toNat ∧ a.toNat ≤ 0xEF)
    (h : isSecondOfThree a b = true) : b.toNat = lowBits b + 0x80 ∧ lowBits b < 64 ∧
      0x800 ≤ a.toNat % 16 * 4096 + lowBits b * 64 ∧
      (a.toNat % 16 * 4096 + lowBits b * 64 + 63 < 0xD800 ∨
        0xDFFF < a.toNat % 16 * 4096 + lowBits b * 64) := by
  simp only [isSecondOfThree, Bool.and_eq_true, decide_eq_true_eq, UInt8.le_iff_toNat_le,
    beq_iff_eq, ← UInt8.toNat_inj, UInt8.reduceToNat, apply_ite UInt8.toNat] at h
  rw [lowBits]
  obtain ⟨hlow, hhigh⟩ := h
  split at hlow <;> split at hhigh <;> omega

theorem isSecondOfFour_bounds {a b : UInt8} (ha : 0xF0 ≤ a.toNat ∧ a.toNat ≤ 0xF4)
    (h : isSecondOfFour a b = true) : b.toNat = lowBits b + 0x80 ∧ lowBits b < 64 ∧
      0x10000 ≤ a.toNat % 8 * 262144 + lowBits b * 4096 ∧
      a.toNat % 8 * 262144 + lowBits b * 4096 + 4095 < 0x110000 := by
  simp only [isSecondOfFour, Bool.and_eq_true, decide_eq_true_eq, UInt8.le_iff_toNat_le,
    beq_iff_eq, ← UInt8.toNat_inj, UInt8.reduceToNat, apply_ite UInt8.toNat] at h
  rw [lowBits]
  obtain ⟨hlow, hhigh⟩ := h
  split at hlow <;> split at hhigh <;> omega

section Sequences

variable {a b c d : UInt8}

theorem utf8EncodeChar_one (ha : a.toNat < 0x80) :
    String.utf8EncodeChar (Char.ofNat a.toNat) = [a] := by
  have hcode : (Char.ofNat a.toNat).val.toNat = a.toNat :=
    toNat_ofNat_of_isValidChar (.inl (by omega))
  rw [String.utf8EncodeChar, hcode, if_pos (by omega), UInt8.ofNat_toNat]

theorem utf8EncodeChar_two (ha : 0xC2 ≤ a.toNat ∧ a.toNat ≤ 0xDF) (hb : isContinuation b = true) :
    String.utf8EncodeChar (Char.ofNat (a.toNat % 32 * 64 + lowBits b)) = [a, b] := by
  obtain ⟨hbyte, hbits⟩ := isContinuation_bounds hb
  have hcode : (Char.ofNat (a.toNat % 32 * 64 + lowBits b)).val.toNat =
      a.toNat % 32 * 64 + lowBits b := toNat_ofNat_of_isValidChar (.inl (by omega))
  have hfirst : UInt8.ofNat ((a.toNat % 32 * 64 + lowBits b) / 64 % 32 + 192) = a :=
    ofNat_of_toNat_eq (by omega)
  have hsecond : UInt8.ofNat ((a.toNat % 32 * 64 + lowBits b) % 64 + 128) = b :=
    ofNat_of_toNat_eq (by omega)
  rw [String.utf8EncodeChar, hcode, if_neg (by omega), if_pos (by omega), hfirst, hsecond]

theorem utf8EncodeChar_three (ha : 0xE0 ≤ a.toNat ∧ a.toNat ≤ 0xEF)
    (hb : isSecondOfThree a b = true) (hc : isContinuation c = true) :
    String.utf8EncodeChar
      (Char.ofNat (a.toNat % 16 * 4096 + lowBits b * 64 + lowBits c)) = [a, b, c] := by
  obtain ⟨hbyte, hbits, hshortest, hvalid⟩ := isSecondOfThree_bounds ha hb
  obtain ⟨hlastByte, hlastBits⟩ := isContinuation_bounds hc
  generalize hn : a.toNat % 16 * 4096 + lowBits b * 64 + lowBits c = n
  have hcode : (Char.ofNat n).val.toNat = n := by
    apply toNat_ofNat_of_isValidChar
    rw [Nat.isValidChar]
    omega
  have hfirst : UInt8.ofNat (n / 4096 % 16 + 224) = a := ofNat_of_toNat_eq (by omega)
  have hsecond : UInt8.ofNat (n / 64 % 64 + 128) = b := ofNat_of_toNat_eq (by omega)
  have hthird : UInt8.ofNat (n % 64 + 128) = c := ofNat_of_toNat_eq (by omega)
  rw [String.utf8EncodeChar, hcode, if_neg (by omega), if_neg (by omega), if_pos (by omega), hfirst,
    hsecond, hthird]

theorem utf8EncodeChar_four (ha : 0xF0 ≤ a.toNat ∧ a.toNat ≤ 0xF4)
    (hb : isSecondOfFour a b = true) (hc : isContinuation c = true) (hd : isContinuation d = true) :
    String.utf8EncodeChar (Char.ofNat
      (a.toNat % 8 * 262144 + lowBits b * 4096 + lowBits c * 64 + lowBits d)) = [a, b, c, d] := by
  obtain ⟨hbyte, hbits, hshortest, hvalid⟩ := isSecondOfFour_bounds ha hb
  obtain ⟨hthirdByte, hthirdBits⟩ := isContinuation_bounds hc
  obtain ⟨hlastByte, hlastBits⟩ := isContinuation_bounds hd
  generalize hn : a.toNat % 8 * 262144 + lowBits b * 4096 + lowBits c * 64 + lowBits d = n
  have hcode : (Char.ofNat n).val.toNat = n := by
    apply toNat_ofNat_of_isValidChar
    rw [Nat.isValidChar]
    omega
  have hfirst : UInt8.ofNat (n / 262144 % 8 + 240) = a := ofNat_of_toNat_eq (by omega)
  have hsecond : UInt8.ofNat (n / 4096 % 64 + 128) = b := ofNat_of_toNat_eq (by omega)
  have hthird : UInt8.ofNat (n / 64 % 64 + 128) = c := ofNat_of_toNat_eq (by omega)
  have hfourth : UInt8.ofNat (n % 64 + 128) = d := ofNat_of_toNat_eq (by omega)
  rw [String.utf8EncodeChar, hcode, if_neg (by omega), if_neg (by omega), if_neg (by omega), hfirst,
    hsecond, hthird, hfourth]

theorem toNat_bounds {low high : UInt8} (h : (low ≤ a && a ≤ high) = true) :
    low.toNat ≤ a.toNat ∧ a.toNat ≤ high.toNat := by
  simpa only [Bool.and_eq_true, decide_eq_true_eq, UInt8.le_iff_toNat_le] using h

end Sequences

theorem exists_of_map_cons_eq_ok {ε : Type} {x : Except ε (List Char)} {c : Char} {cs : List Char}
    (h : x.map (c :: ·) = .ok cs) : ∃ rest, x = .ok rest ∧ cs = c :: rest := by
  cases x with
  | error e => cases h
  | ok rest =>
      cases h
      exact ⟨rest, rfl, rfl⟩

theorem utf8_of_decodeUtf8From {index : Nat} {bytes : List UInt8} {cs : List Char}
    (h : decodeUtf8From index bytes = .ok cs) : utf8 cs = bytes := by
  fun_induction decodeUtf8From index bytes generalizing cs with
  | case1 index =>
      cases h
      rfl
  | case2 index a rest ha ih =>
      obtain ⟨cs, hrest, rfl⟩ := exists_of_map_cons_eq_ok h
      rw [utf8_cons, utf8EncodeChar_one ha, ih hrest]
      rfl
  | case4 index a _ ha b rest hb ih =>
      obtain ⟨cs, hrest, rfl⟩ := exists_of_map_cons_eq_ok h
      rw [utf8_cons, utf8EncodeChar_two (toNat_bounds ha) hb, ih hrest]
      rfl
  | case8 index a _ _ ha b hb c rest hc ih =>
      obtain ⟨cs, hrest, rfl⟩ := exists_of_map_cons_eq_ok h
      rw [utf8_cons, utf8EncodeChar_three (toNat_bounds ha) hb hc, ih hrest]
      rfl
  | case14 index a _ _ _ ha b hb c hc d rest hd ih =>
      obtain ⟨cs, hrest, rfl⟩ := exists_of_map_cons_eq_ok h
      rw [utf8_cons, utf8EncodeChar_four (toNat_bounds ha) hb hc hd, ih hrest]
      rfl
  | _ => cases h

theorem decodeUtf8_eq_ok_iff {bytes : List UInt8} {cs : List Char} :
    decodeUtf8 bytes = .ok cs ↔ utf8 cs = bytes := by
  constructor
  · exact utf8_of_decodeUtf8From
  · rintro rfl
    exact decodeUtf8_utf8 cs

end TraceHeaders.Text
