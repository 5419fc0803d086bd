import Mathlib.Data.List.Infix
import TraceHeaders.Proofs.Text.FormCoding

namespace TraceHeaders.Text

/-- The digits of the escapes that are written. -/
def isUpperHex (c : Char) : Bool := c.isDigit || ('A' ≤ c && c ≤ 'F')

theorem isUpperHex_upperHexDigit :
    ∀ n ∈ List.range 16, isUpperHex (upperHexDigit n) = true := by
  decide

/-- Every percent sign of a text is followed by two digits of a kind. -/
def EscapedBy (isDigit : Char → Bool) (cs : List Char) : Prop :=
  ∀ rest, '%' :: rest <:+ cs →
    ∃ high low after, rest = high :: low :: after ∧ isDigit high = true ∧ isDigit low = true

section EscapedBy

variable {isDigit : Char → Bool} {cs : List Char}

theorem escapedBy_nil : EscapedBy isDigit [] := by
  intro rest h
  exact absurd (List.suffix_nil.mp h) (List.cons_ne_nil _ _)

theorem EscapedBy.cons {c : Char} (hc : c ≠ '%') (h : EscapedBy isDigit cs) :
    EscapedBy isDigit (c :: cs) := by
  intro rest hsuffix
  rcases List.suffix_cons_iff.mp hsuffix with heq | hsuffix
  · exact absurd (List.cons.inj heq).1.symm hc
  · exact h rest hsuffix

theorem EscapedBy.escape {high low : Char} (hhigh : isDigit high = true ∧ high ≠ '%')
    (hlow : isDigit low = true ∧ low ≠ '%') (h : EscapedBy isDigit cs) :
    EscapedBy isDigit ('%' :: high :: low :: cs) := by
  intro rest hsuffix
  rcases List.suffix_cons_iff.mp hsuffix with heq | hsuffix
  · exact ⟨high, low, cs, (List.cons.inj heq).2, hhigh.1, hlow.1⟩
  · exact ((h.cons hlow.2).cons hhigh.2) rest hsuffix

end EscapedBy

theorem upperHexDigit_ne_percent : ∀ n ∈ List.range 16, upperHexDigit n ≠ '%' := by decide

theorem EscapedBy.escapeByte {cs : List Char} (b : UInt8) (h : EscapedBy isUpperHex cs) :
    EscapedBy isUpperHex (Text.escapeByte b ++ cs) := by
  obtain ⟨hhigh, hlow⟩ := halves_mem_range b
  exact h.escape ⟨isUpperHex_upperHexDigit _ hhigh, upperHexDigit_ne_percent _ hhigh⟩
    ⟨isUpperHex_upperHexDigit _ hlow, upperHexDigit_ne_percent _ hlow⟩

theorem EscapedBy.escapeBytes {cs : List Char} (bytes : List UInt8) (h : EscapedBy isUpperHex cs) :
    EscapedBy isUpperHex (bytes.flatMap Text.escapeByte ++ cs) := by
  induction bytes with
  | nil => exact h
  | cons b bytes ih =>
      rw [List.flatMap_cons, List.append_assoc]
      exact ih.escapeByte b

theorem escapedBy_encode {blank : List Char}
    (hblank : ∀ rest, EscapedBy isUpperHex rest → EscapedBy isUpperHex (blank ++ rest))
    (cs : List Char) : EscapedBy isUpperHex (cs.flatMap (encodeChar blank)) := by
  induction cs with
  | nil => exact escapedBy_nil
  | cons c cs ih =>
      rw [List.flatMap_cons, encodeChar]
      split
      · rename_i hplain
        exact ih.cons (ne_of_isUnreserved hplain).1
      · split
        · exact hblank _ ih
        · exact ih.escapeBytes _

theorem escapedBy_encodeForm (s : String) : EscapedBy isUpperHex (encodeForm s).toList := by
  rw [encodeForm, String.toList_ofList]
  exact escapedBy_encode (fun _ h => h.cons (by decide)) s.toList

theorem escapedBy_encodePercent (s : String) : EscapedBy isUpperHex (encodePercent s).toList := by
  rw [encodePercent, String.toList_ofList]
  exact escapedBy_encode (fun _ h => h.escapeByte 0x20) s.toList

/-- A text with every escaped blank replaced by a plus sign, from left to right. -/
def plusForBlank : List Char → List Char
  | [] => []
  | '%' :: '2' :: '0' :: cs => '+' :: plusForBlank cs
  | c :: cs => c :: plusForBlank cs

/-- A character with a plus sign replaced by an escaped blank. -/
def blankForPlus (c : Char) : List Char := if c = '+' then ['%', '2', '0'] else [c]

theorem plusForBlank_cons {c : Char} (h : c ≠ '%') (cs : List Char) :
    plusForBlank (c :: cs) = c :: plusForBlank cs := by
  rw [plusForBlank]
  rintro rest rfl
  exact absurd rfl h

/-- Another escape is left as it stands, and no escaped blank starts inside it. -/
theorem plusForBlank_escape {high low : Char} (hhigh : high ≠ '%') (hlow : low ≠ '%')
    (h : ¬ (high = '2' ∧ low = '0')) (cs : List Char) :
    plusForBlank ('%' :: high :: low :: cs) = '%' :: high :: low :: plusForBlank cs := by
  rw [plusForBlank, plusForBlank_cons hhigh, plusForBlank_cons hlow]
  rintro rest - heq
  obtain ⟨hhighEq, heq⟩ := List.cons.inj heq
  exact h ⟨hhighEq, (List.cons.inj heq).1⟩

theorem plusForBlank_escapeByte {b : UInt8} (h : b ≠ 0x20) (cs : List Char) :
    plusForBlank (escapeByte b ++ cs) = escapeByte b ++ plusForBlank cs := by
  obtain ⟨hhigh, hlow⟩ := halves_mem_range b
  have htwo : ∀ n ∈ List.range 16, upperHexDigit n = '2' → n = 2 := by decide
  have hzero : ∀ n ∈ List.range 16, upperHexDigit n = '0' → n = 0 := by decide
  apply plusForBlank_escape (upperHexDigit_ne_percent _ hhigh) (upperHexDigit_ne_percent _ hlow)
  rintro ⟨hhighEq, hlowEq⟩
  have hhighValue := htwo _ hhigh hhighEq
  have hlowValue := hzero _ hlow hlowEq
  have hblank : b.toNat = 0x20 := by omega
  exact h (UInt8.toNat_inj.mp hblank)

theorem plusForBlank_escapeBytes {bytes : List UInt8} (h : ∀ b ∈ bytes, b ≠ 0x20) (cs : List Char) :
    plusForBlank (bytes.flatMap escapeByte ++ cs) =
      bytes.flatMap escapeByte ++ plusForBlank cs := by
  induction bytes with
  | nil => rfl
  | cons b bytes ih =>
      have hrest := ih fun other hother => h other (List.mem_cons_of_mem b hother)
      rw [List.flatMap_cons, List.append_assoc, plusForBlank_escapeByte (h b List.mem_cons_self),
        hrest, List.append_assoc]

theorem plusForBlank_encodeChar (c : Char) (cs : List Char) :
    plusForBlank (encodeChar ['%', '2', '0'] c ++ cs) = encodeChar ['+'] c ++ plusForBlank cs := by
  rw [encodeChar, encodeChar]
  split
  · rename_i hplain
    exact plusForBlank_cons (ne_of_isUnreserved hplain).1 cs
  · split
    · rw [List.cons_append, List.cons_append, List.cons_append, List.nil_append, plusForBlank]
      rfl
    · rename_i hblank
      exact plusForBlank_escapeBytes (fun b => ne_of_mem_utf8EncodeChar (by decide) hblank) cs

theorem plusForBlank_encodePercent (s : String) :
    plusForBlank (encodePercent s).toList = (encodeForm s).toList := by
  rw [encodePercent, encodeForm, String.toList_ofList, String.toList_ofList]
  induction s.toList with
  | nil => rfl
  | cons c cs ih => rw [List.flatMap_cons, List.flatMap_cons, plusForBlank_encodeChar, ih]

theorem flatMap_blankForPlus_of_not_mem {cs : List Char} (h : '+' ∉ cs) :
    cs.flatMap blankForPlus = cs := by
  induction cs with
  | nil => rfl
  | cons c cs ih =>
      rw [List.mem_cons, not_or] at h
      rw [List.flatMap_cons, ih h.2, blankForPlus, if_neg (Ne.symm h.1), List.singleton_append]

theorem flatMap_blankForPlus_encodeChar (c : Char) :
    (encodeChar ['+'] c).flatMap blankForPlus = encodeChar ['%', '2', '0'] c := by
  rw [encodeChar, encodeChar]
  split
  · rename_i hplain
    apply flatMap_blankForPlus_of_not_mem
    rw [List.mem_singleton]
    exact (ne_of_isUnreserved hplain).2.symm
  · split
    · rfl
    · apply flatMap_blankForPlus_of_not_mem
      intro hplus
      obtain ⟨b, _, hb⟩ := List.mem_flatMap.mp hplus
      exact absurd (mem_escapeByte hb) (by decide)

theorem flatMap_blankForPlus_encodeForm (s : String) :
    (encodeForm s).toList.flatMap blankForPlus = (encodePercent s).toList := by
  rw [encodePercent, encodeForm, String.toList_ofList, String.toList_ofList, List.flatMap_assoc]
  exact List.flatMap_congr fun c _ => flatMap_blankForPlus_encodeChar c

end TraceHeaders.Text

namespace TraceHeaders.HeaderValue

open Text

theorem not_mem_separators_of_isFormChar {c : Char} (h : isFormChar c = true) :
    c ∉ [',', ';', '='] := by
  intro hc
  simp only [List.mem_cons, List.not_mem_nil, or_false] at hc
  rcases hc with rfl | rfl | rfl <;> exact absurd h (by decide)

/-- Coding and decoding give the value back without a report, whatever it holds.  A coded value is made of
unreserved characters and whole escapes, with plus signs for the blanks in one of the two codes, so it
holds no white space and no separator.  The codes are each other's with the blanks rewritten. -/
theorem decode_coded (s : String) :
    (decode (encodeForm s) = pure s ∧ decode (encodePercent s) = pure s) ∧
    (∀ c ∈ (encodeForm s).toList, isUnreserved c = true ∨ c = '+' ∨ c = '%') ∧
    (∀ c ∈ (encodePercent s).toList, (isUnreserved c = true ∨ c = '%') ∧ c ≠ '+') ∧
    (∀ coded ∈ [encodeForm s, encodePercent s], EscapedBy isUpperHex coded.toList ∧
      ∀ c ∈ coded.toList, isBlank c = false ∧ c ∉ [',', ';', '=']) ∧
    plusForBlank (encodePercent s).toList = (encodeForm s).toList ∧
    (encodeForm s).toList.flatMap blankForPlus = (encodePercent s).toList := by
  have hplus : ∀ c ∈ (encodePercent s).toList, c ≠ '+' := by
    rintro c hc rfl
    exact absurd (mem_encodePercent hc) (by decide)
  have hopaque {coded : String} (hchars : ∀ c ∈ coded.toList, isFormChar c = true) :
      ∀ c ∈ coded.toList, isBlank c = false ∧ c ∉ [',', ';', '='] := fun c hc =>
    ⟨isBlank_eq_false_of_isFormChar (hchars c hc),
      not_mem_separators_of_isFormChar (hchars c hc)⟩
  refine ⟨⟨decode_eq_pure (decodeForm_encodeForm s), decode_eq_pure (decodeForm_encodePercent s)⟩,
    fun c => mem_encodeForm, fun c hc => ⟨mem_encodePercent hc, hplus c hc⟩, ?_,
    plusForBlank_encodePercent s, flatMap_blankForPlus_encodeForm s⟩
  intro coded hcoded
  simp only [List.mem_cons, List.not_mem_nil, or_false] at hcoded
  rcases hcoded with rfl | rfl
  · exact ⟨escapedBy_encodeForm s, hopaque fun c => isFormChar_of_mem_encodeForm⟩
  · refine ⟨escapedBy_encodePercent s, hopaque fun c hc => ?_⟩
    exact isFormChar_iff.mpr ((mem_encodePercent hc).imp_right .inr)

example : encodeForm "a b+%20;é" = "a+b%2B%2520%3B%C3%A9" ∧
    encodePercent "a b+%20;é" = "a%20b%2B%2520%3B%C3%A9" := by decide

end TraceHeaders.HeaderValue
