import TraceHeaders.Proofs.HeaderValue
import TraceHeaders.Proofs.Text.Numeral

/-!
Decoding in two passes.  The first one goes over the bytes of a text to see that all escapes are whole, and
the second one replaces them once plus signs have become blanks.  Both find the same escapes, so the two
of them are the decoder that reads a text once.
-/

namespace TraceHeaders.Text

/-- Whether a byte is a hexadecimal digit of ASCII. -/
def isHexByte (b : UInt8) : Bool := isHex (Char.ofNat b.toNat)

/-- The byte that an escape with these digits stands for. -/
def escapedByte (high low : UInt8) : UInt8 :=
  UInt8.ofNat (hexValue [Char.ofNat high.toNat, Char.ofNat low.toNat])

def plusAsBlank (b : UInt8) : UInt8 := if b = 0x2B then 0x20 else b

/-- Whether all percent signs have two digits behind them. -/
def hasValidEscapes : List UInt8 → Bool
  | [] => true
  | b :: rest =>
      if b = 0x25 then
        match rest with
        | high :: low :: rest => isHexByte high && isHexByte low && hasValidEscapes rest
        | _ => false
      else hasValidEscapes rest

/-- How escapes are replaced: whole ones by their bytes, and all else stands for itself. -/
structure ReplacesEscapes (replace : List UInt8 → List UInt8) : Prop where
  nil : replace [] = []
  plain : ∀ b rest, b ≠ 0x25 → replace (b :: rest) = b :: replace rest
  whole : ∀ high low rest, isHexByte high = true → isHexByte low = true →
    replace (0x25 :: high :: low :: rest) = escapedByte high low :: replace rest
  broken : ∀ rest, (¬ ∃ high low after, rest = high :: low :: after ∧ isHexByte high = true ∧
    isHexByte low = true) → replace (0x25 :: rest) = 0x25 :: replace rest

/-- A part of a coded text. -/
inductive Part where
  | escape (high low : UInt8)
  | plain (b : UInt8)

namespace Part

def bytes : Part → List UInt8
  | escape high low => [0x25, high, low]
  | plain b => [b]

def IsWhole : Part → Prop
  | escape high low => isHexByte high = true ∧ isHexByte low = true
  | plain b => b ≠ 0x25

/-- The byte that a part stands for. -/
def meaning : Part → UInt8
  | escape high low => escapedByte high low
  | plain b => plusAsBlank b

end Part

/-- A text is cut into whole escapes and other bytes. -/
structure Divides (parts : List Part) (bytes : List UInt8) : Prop where
  whole : ∀ part ∈ parts, part.IsWhole
  joined : parts.flatMap Part.bytes = bytes

section Bytes

variable {replace : List UInt8 → List UInt8} {parts : List Part}

theorem hasValidEscapes_escape (high low : UInt8) (rest : List UInt8) :
    hasValidEscapes (0x25 :: high :: low :: rest) =
      (isHexByte high && isHexByte low && hasValidEscapes rest) := by
  rw [hasValidEscapes, if_pos rfl]

theorem hasValidEscapes_plain {b : UInt8} (h : b ≠ 0x25) (rest : List UInt8) :
    hasValidEscapes (b :: rest) = hasValidEscapes rest := by
  rw [hasValidEscapes.eq_def]
  exact if_neg h

theorem hasValidEscapes_append (h : ∀ part ∈ parts, part.IsWhole) (rest : List UInt8) :
    hasValidEscapes (parts.flatMap Part.bytes ++ rest) = hasValidEscapes rest := by
  induction parts with
  | nil => rfl
  | cons part parts ih =>
      obtain ⟨hpart, hparts⟩ := List.forall_mem_cons.mp h
      rw [List.flatMap_cons, List.append_assoc]
      cases part with
      | escape high low =>
          have hescape := hasValidEscapes_escape high low (parts.flatMap Part.bytes ++ rest)
          rw [hpart.1, hpart.2, ih hparts] at hescape
          exact hescape
      | plain b => exact (hasValidEscapes_plain hpart _).trans (ih hparts)

theorem plusAsBlank_of_isHexByte {b : UInt8} (h : isHexByte b = true) : plusAsBlank b = b := by
  rw [plusAsBlank, if_neg]
  rintro rfl
  exact absurd h (by decide)

theorem plusAsBlank_ne {b : UInt8} (h : b ≠ 0x25) : plusAsBlank b ≠ 0x25 := by
  rw [plusAsBlank]
  split
  · decide
  · exact h

/-- The second pass goes from part to part as well, in spite of the blanks. -/
theorem ReplacesEscapes.append (hreplace : ReplacesEscapes replace)
    (h : ∀ part ∈ parts, part.IsWhole) (rest : List UInt8) :
    replace ((parts.flatMap Part.bytes ++ rest).map plusAsBlank) =
      parts.map Part.meaning ++ replace (rest.map plusAsBlank) := by
  induction parts with
  | nil => rfl
  | cons part parts ih =>
      obtain ⟨hpart, hparts⟩ := List.forall_mem_cons.mp h
      rw [List.flatMap_cons, List.append_assoc, List.map_append, List.map_cons, List.cons_append,
        ← ih hparts]
      cases part with
      | escape high low =>
          have hbytes : (Part.escape high low).bytes.map plusAsBlank = [0x25, high, low] := by
            simp only [Part.bytes, List.map_cons, List.map_nil, plusAsBlank_of_isHexByte hpart.1,
              plusAsBlank_of_isHexByte hpart.2]
            rfl
          rw [hbytes]
          exact hreplace.whole high low _ hpart.1 hpart.2
      | plain b => exact hreplace.plain _ _ (plusAsBlank_ne hpart)

theorem Divides.cons {bytes : List UInt8} (part : Part) (hpart : part.IsWhole)
    (h : Divides parts bytes) : Divides (part :: parts) (part.bytes ++ bytes) :=
  ⟨List.forall_mem_cons.mpr ⟨hpart, h.whole⟩, congrArg (part.bytes ++ ·) h.joined⟩

theorem exists_divides_iff {bytes : List UInt8} :
    (∃ parts, Divides parts bytes) ↔ hasValidEscapes bytes = true := by
  constructor
  · rintro ⟨parts, hwhole, hjoined⟩
    have hscan := hasValidEscapes_append hwhole []
    rwa [List.append_nil, hjoined] at hscan
  · intro h
    fun_induction hasValidEscapes bytes with
    | case1 => exact ⟨[], fun part hpart => absurd hpart List.not_mem_nil, rfl⟩
    | case2 high low rest ih =>
        simp only [Bool.and_eq_true] at h
        obtain ⟨parts, hparts⟩ := ih h.2
        exact ⟨_, hparts.cons (.escape high low) h.1⟩
    | case3 => cases h
    | case4 b rest hb ih =>
        obtain ⟨parts, hparts⟩ := ih h
        exact ⟨_, hparts.cons (.plain b) hb⟩

theorem Part.bytes_append_inj {part other : Part} {bytes others : List UInt8}
    (hpart : part.IsWhole) (hother : other.IsWhole)
    (h : part.bytes ++ bytes = other.bytes ++ others) : part = other ∧ bytes = others := by
  cases part with
  | escape high low =>
      cases other with
      | escape high' low' =>
          cases h
          exact ⟨rfl, rfl⟩
      | plain b => exact absurd (List.cons.inj h).1.symm hother
  | plain b =>
      cases other with
      | escape high low => exact absurd (List.cons.inj h).1 hpart
      | plain b' =>
          cases h
          exact ⟨rfl, rfl⟩

theorem Part.bytes_ne_nil (part : Part) : part.bytes ≠ [] := by
  cases part <;> exact List.cons_ne_nil _ _

theorem Divides.unique {others : List Part} {bytes : List UInt8} (h : Divides parts bytes)
    (hothers : Divides others bytes) : others = parts := by
  induction parts generalizing others bytes with
  | nil =>
      have hempty : others.flatMap Part.bytes = [] := hothers.joined.trans h.joined.symm
      cases others with
      | nil => rfl
      | cons other others =>
          exact absurd (List.append_eq_nil_iff.mp hempty).1 other.bytes_ne_nil
  | cons part parts ih =>
      obtain ⟨hpart, hparts⟩ := List.forall_mem_cons.mp h.whole
      have hsame := h.joined.trans hothers.joined.symm
      cases others with
      | nil => exact absurd (List.append_eq_nil_iff.mp hsame).1 part.bytes_ne_nil
      | cons other others =>
          obtain ⟨hother, hrest⟩ := List.forall_mem_cons.mp hothers.whole
          obtain ⟨rfl, hjoined⟩ := Part.bytes_append_inj hpart hother hsame
          rw [ih ⟨hparts, rfl⟩ ⟨hrest, hjoined.symm⟩]

end Bytes

section Chars

variable {replace : List UInt8 → List UInt8} {cs : List Char}

theorem isHexByte_ofNat {c : Char} (h : isAscii c = true) :
    isHexByte (UInt8.ofNat c.toNat) = isHex c := by
  rw [isAscii, decide_eq_true_eq] at h
  rw [isHexByte, toNat_ofNat_of_lt (by omega), Char.ofNat_toNat]

theorem toNat_lt_of_isHexByte {b : UInt8} (h : isHexByte b = true) : b.toNat < 0x80 := by
  have hascii := isAscii_of_isHex h
  have hvalid : b.toNat.isValidChar := .inl (by have := b.toNat_lt; omega)
  rwa [isAscii, decide_eq_true_eq, toNat_ofNat_of_isValidChar hvalid] at hascii

/-- A text whose first byte is a digit starts with that digit. -/
theorem exists_of_utf8_eq_cons {b : UInt8} {rest : List UInt8} (hb : isHexByte b = true)
    (h : utf8 cs = b :: rest) :
    ∃ c after, cs = c :: after ∧ isHex c = true ∧ utf8 after = rest := by
  cases cs with
  | nil => cases h
  | cons c after =>
      rw [utf8_cons] at h
      obtain ⟨first, more, hencode⟩ :=
        List.exists_cons_of_ne_nil (String.utf8EncodeChar_ne_nil (c := c))
      have hmem : b ∈ String.utf8EncodeChar c := by
        rw [hencode] at h ⊢
        rw [(List.cons.inj h).1]
        exact List.mem_cons_self
      have hcode : b.toNat = c.toNat :=
        (toNat_of_mem_utf8EncodeChar hmem).resolve_right (Nat.not_le.mpr (toNat_lt_of_isHexByte hb))
      have hascii : isAscii c = true := by
        rw [isAscii, decide_eq_true_eq, ← hcode]
        exact toNat_lt_of_isHexByte hb
      rw [utf8EncodeChar_of_isAscii hascii] at h
      obtain ⟨rfl, hrest⟩ := List.cons.inj h
      rw [isHexByte_ofNat hascii] at hb
      exact ⟨c, after, rfl, hb, hrest⟩

theorem exists_of_hasValidEscapes_percent {bytes : List UInt8}
    (h : hasValidEscapes (0x25 :: bytes) = true) : ∃ high low rest, bytes = high :: low :: rest ∧
      isHexByte high = true ∧ isHexByte low = true ∧ hasValidEscapes rest = true := by
  rw [hasValidEscapes.eq_def] at h
  simp only [if_true] at h
  split at h
  · rename_i high low rest
    simp only [Bool.and_eq_true] at h
    exact ⟨high, low, rest, rfl, h.1.1, h.1.2, h.2⟩
  · cases h

theorem utf8_escape {high low : Char} (hhigh : isHex high = true) (hlow : isHex low = true)
    (cs : List Char) : utf8 ('%' :: high :: low :: cs) =
      [Part.escape (UInt8.ofNat high.toNat) (UInt8.ofNat low.toNat)].flatMap Part.bytes ++
        utf8 cs := by
  rw [utf8_cons, utf8_cons, utf8_cons, utf8EncodeChar_of_isAscii (isAscii_of_isHex hhigh),
    utf8EncodeChar_of_isAscii (isAscii_of_isHex hlow)]
  rfl

theorem isWhole_escape {high low : Char} (hhigh : isHex high = true) (hlow : isHex low = true) :
    ∀ part ∈ [Part.escape (UInt8.ofNat high.toNat) (UInt8.ofNat low.toNat)], part.IsWhole := by
  rw [List.forall_mem_singleton, Part.IsWhole, isHexByte_ofNat (isAscii_of_isHex hhigh),
    isHexByte_ofNat (isAscii_of_isHex hlow)]
  exact ⟨hhigh, hlow⟩

theorem hasValidEscapes_utf8_percent_iff : hasValidEscapes (utf8 ('%' :: cs)) = true ↔
    ∃ high low after, cs = high :: low :: after ∧ (isHex high = true ∧ isHex low = true) ∧
      hasValidEscapes (utf8 after) = true := by
  constructor
  · intro h
    obtain ⟨high, low, rest, hbytes, hhigh, hlow, hrest⟩ := exists_of_hasValidEscapes_percent h
    obtain ⟨high, behind, rfl, hhigh, hbehind⟩ := exists_of_utf8_eq_cons hhigh hbytes
    obtain ⟨low, after, rfl, hlow, hafter⟩ := exists_of_utf8_eq_cons hlow hbehind
    exact ⟨high, low, after, rfl, ⟨hhigh, hlow⟩, hafter ▸ hrest⟩
  · rintro ⟨high, low, after, rfl, ⟨hhigh, hlow⟩, hafter⟩
    rwa [utf8_escape hhigh hlow, hasValidEscapes_append (isWhole_escape hhigh hlow)]

theorem flatMap_bytes_plain (bytes : List UInt8) : (bytes.map Part.plain).flatMap Part.bytes = bytes := by
  induction bytes with
  | nil => rfl
  | cons b bytes ih => exact congrArg (b :: ·) ih

theorem isWhole_plain {c : Char} (h : c ≠ '%') :
    ∀ part ∈ (String.utf8EncodeChar c).map Part.plain, part.IsWhole :=
  List.forall_mem_map.mpr fun _ hb => ne_of_mem_utf8EncodeChar (by decide) h hb

theorem utf8_plain (c : Char) (cs : List Char) : utf8 (c :: cs) =
    ((String.utf8EncodeChar c).map Part.plain).flatMap Part.bytes ++ utf8 cs := by
  rw [flatMap_bytes_plain, utf8_cons]

theorem hasValidEscapes_utf8_cons {c : Char} (h : c ≠ '%') :
    hasValidEscapes (utf8 (c :: cs)) = hasValidEscapes (utf8 cs) := by
  rw [utf8_plain, hasValidEscapes_append (isWhole_plain h)]

theorem EscapedBy.of_cons {isDigit : Char → Bool} {c : Char} (h : EscapedBy isDigit (c :: cs)) :
    EscapedBy isDigit cs :=
  fun rest hrest => h rest (hrest.trans (List.suffix_cons c cs))

theorem escapedBy_percent_iff : EscapedBy isHex ('%' :: cs) ↔
    ∃ high low after, cs = high :: low :: after ∧ (isHex high = true ∧ isHex low = true) ∧
      EscapedBy isHex after := by
  constructor
  · intro h
    obtain ⟨high, low, after, rfl, hhigh, hlow⟩ := h cs List.suffix_rfl
    exact ⟨high, low, after, rfl, ⟨hhigh, hlow⟩, h.of_cons.of_cons.of_cons⟩
  · rintro ⟨high, low, after, rfl, ⟨hhigh, hlow⟩, hafter⟩
    have hne {c : Char} (hc : isHex c = true) : c ≠ '%' := by
      rintro rfl
      exact absurd hc (by decide)
    exact hafter.escape ⟨hhigh, hne hhigh⟩ ⟨hlow, hne hlow⟩

theorem hasValidEscapes_utf8_iff : hasValidEscapes (utf8 cs) = true ↔ EscapedBy isHex cs := by
  -- An escape takes three characters at once, so the induction is on the length.
  induction hlength : cs.length using Nat.strongRecOn generalizing cs with
  | _ length ih =>
      cases cs with
      | nil => exact iff_of_true rfl escapedBy_nil
      | cons c rest =>
          by_cases hc : c = '%'
          · rw [hc, hasValidEscapes_utf8_percent_iff, escapedBy_percent_iff]
            refine exists_congr fun high => exists_congr fun low => exists_congr fun after =>
              and_congr_right fun hrest => and_congr_right fun _ => ih after.length ?_ rfl
            rw [← hlength, List.length_cons, hrest, List.length_cons, List.length_cons]
            omega
          · rw [hasValidEscapes_utf8_cons hc, ih rest.length (by simp [← hlength]) rfl]
            exact ⟨.cons hc, .of_cons⟩

/-- A text is read in one pass as it is in two. -/
def ReadsInOne (replace : List UInt8 → List UInt8) (cs : List Char) : Prop :=
  decodeBytes? cs =
    if hasValidEscapes (utf8 cs) = true then some (replace ((utf8 cs).map plusAsBlank)) else none

theorem ReadsInOne.append {rest : List Char} {parts : List Part} (hreplace : ReplacesEscapes replace)
    (hrest : ReadsInOne replace rest) (hwhole : ∀ part ∈ parts, part.IsWhole)
    (hbytes : utf8 cs = parts.flatMap Part.bytes ++ utf8 rest)
    (hdecode : decodeBytes? cs = (decodeBytes? rest).map (parts.map Part.meaning ++ ·)) :
    ReadsInOne replace cs := by
  rw [ReadsInOne, hbytes, hasValidEscapes_append hwhole, hreplace.append hwhole, hdecode, hrest]
  split <;> rfl

theorem meaning_escape {high low : Char} (hhigh : isHex high = true) (hlow : isHex low = true) :
    (Part.escape (UInt8.ofNat high.toNat) (UInt8.ofNat low.toNat)).meaning =
      UInt8.ofNat (hexValue [high, low]) := by
  have hcode {c : Char} (hc : isHex c = true) : Char.ofNat (UInt8.ofNat c.toNat).toNat = c := by
    have hascii := isAscii_of_isHex hc
    rw [isAscii, decide_eq_true_eq] at hascii
    rw [toNat_ofNat_of_lt (by omega), Char.ofNat_toNat]
  rw [Part.meaning, escapedByte, hcode hhigh, hcode hlow]

theorem map_plusAsBlank {c : Char} (h : c ≠ '+') :
    (String.utf8EncodeChar c).map plusAsBlank = String.utf8EncodeChar c := by
  conv_rhs => rw [← List.map_id (String.utf8EncodeChar c)]
  apply List.map_congr_left
  intro b hb
  exact if_neg (ne_of_mem_utf8EncodeChar (by decide) h hb)

theorem meaning_plain (c : Char) : ((String.utf8EncodeChar c).map Part.plain).map Part.meaning =
    (String.utf8EncodeChar c).map plusAsBlank := by
  rw [List.map_map]
  rfl

theorem readsInOne (hreplace : ReplacesEscapes replace) (cs : List Char) : ReadsInOne replace cs := by
  -- One step of the single pass is a whole escape, a plus sign or the bytes of another character, which
  -- are parts for both of the two passes.
  induction cs using decodeBytes?.induct with
  | case1 =>
      rw [ReadsInOne]
      exact congrArg some hreplace.nil.symm
  | case2 a b cs high low hlow hhigh ih =>
      have ha := exists_digitValue?_iff.mp ⟨high, hhigh⟩
      have hb := exists_digitValue?_iff.mp ⟨low, hlow⟩
      have hvalue : hexValue [a, b] = high * 16 + low := by
        simp [hexValue, hhigh, hlow]
      refine ih.append hreplace (isWhole_escape ha hb) (utf8_escape ha hb cs) ?_
      rw [decodeBytes?.eq_def, List.map_singleton, meaning_escape ha hb, hvalue]
      simp only [hhigh, hlow, List.singleton_append]
  | case3 a b cs hbroken =>
      have hnone : decodeBytes? ('%' :: a :: b :: cs) = none := by
        rw [decodeBytes?]
        split
        · rename_i high low hhigh hlow
          exact (hbroken high low hhigh hlow).elim
        · rfl
      rw [ReadsInOne, hnone, if_neg]
      intro hscan
      obtain ⟨high, low, after, hcs, ⟨hhigh, hlow⟩, -⟩ := hasValidEscapes_utf8_percent_iff.mp hscan
      cases hcs
      obtain ⟨highValue, hhigh⟩ := exists_digitValue?_iff.mpr hhigh
      obtain ⟨lowValue, hlow⟩ := exists_digitValue?_iff.mpr hlow
      exact hbroken highValue lowValue hhigh hlow
  | case4 rest hshort =>
      have hnone : decodeBytes? ('%' :: rest) = none := by
        rw [decodeBytes?]
        exact hshort
      rw [ReadsInOne, hnone, if_neg]
      intro hscan
      obtain ⟨high, low, after, hrest, -⟩ := hasValidEscapes_utf8_percent_iff.mp hscan
      exact hshort high low after hrest
  | case5 cs ih =>
      exact ih.append hreplace (isWhole_plain (c := '+') (by decide)) (utf8_plain '+' cs) rfl
  | case6 c cs _ hpercent hplus ih =>
      refine ih.append hreplace (isWhole_plain hpercent) (utf8_plain c cs) ?_
      rw [meaning_plain, map_plusAsBlank hplus, decodeBytes?_plain hpercent hplus]

theorem utf8_swap (s : String) :
    utf8 (swap '+' ' ' s).toList = (utf8 s.toList).map plusAsBlank := by
  rw [swap, String.toList_ofList]
  induction s.toList with
  | nil => rfl
  | cons c cs ih =>
      rw [List.map_cons, utf8_cons, utf8_cons, List.map_append, ih]
      split
      · rename_i hplus
        rw [hplus]
        rfl
      · rename_i hplus
        rw [map_plusAsBlank hplus]

end Chars

/-- The replacement of escapes from left to right. -/
def replaceEscapes : List UInt8 → List UInt8
  | b :: high :: low :: rest =>
      if b = 0x25 ∧ isHexByte high = true ∧ isHexByte low = true then
        escapedByte high low :: replaceEscapes rest
      else b :: replaceEscapes (high :: low :: rest)
  | bytes => bytes

theorem replaceEscapes_cons {b : UInt8} {rest : List UInt8}
    (h : ¬ (b = 0x25 ∧ ∃ high low after, rest = high :: low :: after ∧ isHexByte high = true ∧
      isHexByte low = true)) : replaceEscapes (b :: rest) = b :: replaceEscapes rest := by
  match rest with
  | [] => rfl
  | [_] => rfl
  | high :: low :: after =>
      rw [replaceEscapes, if_neg]
      rintro ⟨hb, hdigits⟩
      exact h ⟨hb, high, low, after, rfl, hdigits⟩

theorem replacesEscapes_replaceEscapes : ReplacesEscapes replaceEscapes where
  nil := rfl
  plain _ _ hb := replaceEscapes_cons fun h => hb h.1
  whole _ _ _ hhigh hlow := by rw [replaceEscapes, if_pos ⟨rfl, hhigh, hlow⟩]
  broken _ hbroken := replaceEscapes_cons fun h => hbroken h.2

end TraceHeaders.Text

namespace TraceHeaders.HeaderValue

open Text

/-- Decoding is two passes over the bytes and a look at what comes out.  The passes go from part to part
alike, whatever follows. -/
theorem decode_in_two_passes {replace : List UInt8 → List UInt8} (hreplace : ReplacesEscapes replace)
    (value : String) :
    (hasValidEscapes (utf8 value.toList) = true ↔ EscapedBy isHex value.toList) ∧
    (hasValidEscapes (utf8 value.toList) = false →
      decodeForm value = .error .malformedEscape ∧ (decode value).value = value) ∧
    (hasValidEscapes (utf8 value.toList) = true → ∃ parts, Divides parts (utf8 value.toList) ∧
      (∀ others, Divides others (utf8 value.toList) → others = parts) ∧
      replace (utf8 (swap '+' ' ' value).toList) = parts.map Part.meaning ∧
      (∀ s : String, utf8 s.toList = parts.map Part.meaning → decode value = pure s) ∧
      ((¬ ∃ s : String, utf8 s.toList = parts.map Part.meaning) →
        (∃ cause, decodeForm value = .error (.notUtf8 cause)) ∧ (decode value).value = value)) ∧
    ∀ (parts : List Part) (rest : List UInt8), (∀ part ∈ parts, part.IsWhole) →
      hasValidEscapes (parts.flatMap Part.bytes ++ rest) = hasValidEscapes rest ∧
      replace ((parts.flatMap Part.bytes ++ rest).map plusAsBlank) =
        parts.map Part.meaning ++ replace (rest.map plusAsBlank) := by
  have hread : decodeBytes? value.toList = _ := readsInOne hreplace value.toList
  refine ⟨hasValidEscapes_utf8_iff, fun hscan => ?_, fun hscan => ?_,
    fun parts rest hwhole => ⟨hasValidEscapes_append hwhole rest, hreplace.append hwhole rest⟩⟩
  · have hform : decodeForm value = .error .malformedEscape := by
      rw [decodeForm, hread, hscan]
      rfl
    exact ⟨hform, value_decode_of_error hform⟩
  · obtain ⟨parts, hparts⟩ := exists_divides_iff.mpr hscan
    have hmeaning : replace ((utf8 value.toList).map plusAsBlank) = parts.map Part.meaning := by
      have happend := hreplace.append hparts.whole []
      rwa [List.append_nil, hparts.joined, List.map_nil, hreplace.nil, List.append_nil] at happend
    rw [hscan, if_pos rfl, hmeaning] at hread
    refine ⟨parts, hparts, fun _ hothers => hparts.unique hothers, ?_, fun s hs => ?_, fun hnone => ?_⟩
    · rw [utf8_swap, hmeaning]
    · apply decode_eq_pure
      rw [decodeForm, hread]
      simp only [decodeUtf8_eq_ok_iff.mpr hs, String.ofList_toList]
    · cases hdecode : decodeUtf8 (parts.map Part.meaning) with
      | error cause =>
          have hform : decodeForm value = .error (.notUtf8 cause) := by
            rw [decodeForm, hread]
            simp only [hdecode]
          exact ⟨⟨cause, hform⟩, value_decode_of_error hform⟩
      | ok cs =>
          refine absurd ⟨String.ofList cs, ?_⟩ hnone
          rw [String.toList_ofList, decodeUtf8_eq_ok_iff.mp hdecode]

theorem decode_in_two_passes_mixed :
    EscapedBy isHex "a+%C3%a9%2B".toList ∧ decode "a+%C3%a9%2B" = pure "a é+" := by
  obtain ⟨hescaped, -, hwhole, -⟩ :=
    decode_in_two_passes replacesEscapes_replaceEscapes "a+%C3%a9%2B"
  have hscan : hasValidEscapes (utf8 "a+%C3%a9%2B".toList) = true := by decide +kernel
  obtain ⟨parts, -, -, hmeaning, hdecode, -⟩ := hwhole hscan
  have hbytes : replaceEscapes (utf8 (swap '+' ' ' "a+%C3%a9%2B").toList) = utf8 "a é+".toList := by
    decide +kernel
  exact ⟨hescaped.mp hscan, hdecode _ (hbytes.symm.trans hmeaning)⟩

end TraceHeaders.HeaderValue
