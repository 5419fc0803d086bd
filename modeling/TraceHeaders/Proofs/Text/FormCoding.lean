import TraceHeaders.HeaderValue
import TraceHeaders.Proofs.Text.Pieces
import TraceHeaders.Proofs.Text.Utf8

namespace TraceHeaders.Text

theorem digitValue?_upperHexDigit :
    ∀ n ∈ List.range 16, digitValue? 16 (upperHexDigit n) = some n := by
  decide

theorem halves_mem_range (b : UInt8) :
    b.toNat / 16 ∈ List.range 16 ∧ b.toNat % 16 ∈ List.range 16 := by
  have hbound : b.toNat < 256 := b.toNat_lt
  rw [List.mem_range, List.mem_range]
  omega

theorem decodeBytes?_escapeByte (b : UInt8) (rest : List Char) :
    decodeBytes? (escapeByte b ++ rest) = (decodeBytes? rest).map (b :: ·) := by
  obtain ⟨hhighMem, hlowMem⟩ := halves_mem_range b
  have hhigh := digitValue?_upperHexDigit _ hhighMem
  have hlow := digitValue?_upperHexDigit _ hlowMem
  have hbyte : UInt8.ofNat (b.toNat / 16 * 16 + b.toNat % 16) = b := by
    rw [Nat.div_add_mod', UInt8.ofNat_toNat]
  simp only [escapeByte, List.cons_append, List.nil_append, decodeBytes?, hhigh, hlow, hbyte]

theorem decodeBytes?_escape (bytes : List UInt8) (rest : List Char) :
    decodeBytes? (bytes.flatMap escapeByte ++ rest) = (decodeBytes? rest).map (bytes ++ ·) := by
  induction bytes with
  | nil => simp
  | cons b bytes ih =>
      rw [List.flatMap_cons, List.append_assoc, decodeBytes?_escapeByte, ih, Option.map_map]
      rfl

theorem decodeBytes?_plain {c : Char} (hpercent : c ≠ '%') (hplus : c ≠ '+') (rest : List Char) :
    decodeBytes? (c :: rest) = (decodeBytes? rest).map (String.utf8EncodeChar c ++ ·) := by
  rw [decodeBytes?.eq_def]
  split <;> simp_all

/-- What the decoder reads as a blank. -/
def IsBlankCode (blank : List Char) : Prop :=
  ∀ rest, decodeBytes? (blank ++ rest) = (decodeBytes? rest).map (0x20 :: ·)

theorem isBlankCode_plus : IsBlankCode ['+'] := fun _ => rfl

theorem isBlankCode_escape : IsBlankCode ['%', '2', '0'] := fun rest =>
  decodeBytes?_escapeByte 0x20 rest

theorem ne_of_isUnreserved {c : Char} (h : isUnreserved c = true) : c ≠ '%' ∧ c ≠ '+' := by
  constructor
  · rintro rfl
    exact absurd h (by decide)
  · rintro rfl
    exact absurd h (by decide)

variable {blank : List Char}

theorem decodeBytes?_encodeChar (hblank : IsBlankCode blank) (c : Char) (rest : List Char) :
    decodeBytes? (encodeChar blank c ++ rest) =
      (decodeBytes? rest).map (String.utf8EncodeChar c ++ ·) := by
  rw [encodeChar]
  split
  · rename_i hplain
    obtain ⟨hpercent, hplus⟩ := ne_of_isUnreserved hplain
    exact decodeBytes?_plain hpercent hplus rest
  · split
    · rename_i hspace
      rw [hspace, hblank]
      rfl
    · exact decodeBytes?_escape _ rest

theorem decodeBytes?_encode (hblank : IsBlankCode blank) (cs : List Char) :
    decodeBytes? (cs.flatMap (encodeChar blank)) = some (utf8 cs) := by
  induction cs with
  | nil => rfl
  | cons c cs ih =>
      rw [List.flatMap_cons, decodeBytes?_encodeChar hblank, ih]
      rfl

theorem decodeForm_encode (hblank : IsBlankCode blank) (s : String) :
    decodeForm (String.ofList (s.toList.flatMap (encodeChar blank))) = .ok s := by
  rw [decodeForm, String.toList_ofList, decodeBytes?_encode hblank]
  simp only [decodeUtf8_utf8, String.ofList_toList]

@[simp] theorem decodeForm_encodeForm (s : String) : decodeForm (encodeForm s) = .ok s :=
  decodeForm_encode isBlankCode_plus s

@[simp] theorem decodeForm_encodePercent (s : String) : decodeForm (encodePercent s) = .ok s :=
  decodeForm_encode isBlankCode_escape s

theorem isUnreserved_upperHexDigit :
    ∀ n ∈ List.range 16, isUnreserved (upperHexDigit n) = true := by
  decide

theorem mem_escapeByte {b : UInt8} {c : Char} (h : c ∈ escapeByte b) :
    isUnreserved c = true ∨ c = '%' := by
  obtain ⟨hhigh, hlow⟩ := halves_mem_range b
  simp only [escapeByte, List.mem_cons, List.not_mem_nil, or_false] at h
  rcases h with rfl | rfl | rfl
  · exact .inr rfl
  · exact .inl (isUnreserved_upperHexDigit _ hhigh)
  · exact .inl (isUnreserved_upperHexDigit _ hlow)

theorem mem_encode {cs : List Char} {c : Char} (h : c ∈ cs.flatMap (encodeChar blank)) :
    isUnreserved c = true ∨ c = '%' ∨ c ∈ blank := by
  obtain ⟨plain, _, hc⟩ := List.mem_flatMap.mp h
  rw [encodeChar] at hc
  split at hc
  · rename_i hunreserved
    rw [List.mem_singleton.mp hc]
    exact .inl hunreserved
  · split at hc
    · exact .inr (.inr hc)
    · obtain ⟨b, _, hb⟩ := List.mem_flatMap.mp hc
      exact (mem_escapeByte hb).imp_right .inl

theorem mem_encodeForm {s : String} {c : Char} (h : c ∈ (encodeForm s).toList) :
    isUnreserved c = true ∨ c = '+' ∨ c = '%' := by
  rw [encodeForm, String.toList_ofList] at h
  rcases mem_encode h with h | h | h
  · exact .inl h
  · exact .inr (.inr h)
  · exact .inr (.inl (List.mem_singleton.mp h))

theorem mem_encodePercent {s : String} {c : Char} (h : c ∈ (encodePercent s).toList) :
    isUnreserved c = true ∨ c = '%' := by
  rw [encodePercent, String.toList_ofList] at h
  rcases mem_encode h with h | h | h
  · exact .inl h
  · exact .inr h
  · simp only [List.mem_cons, List.not_mem_nil, or_false] at h
    rcases h with rfl | rfl | rfl <;> decide

def isFormChar (c : Char) : Bool := isUnreserved c || c == '+' || c == '%'

theorem isFormChar_iff {c : Char} :
    isFormChar c = true ↔ isUnreserved c = true ∨ c = '+' ∨ c = '%' := by
  simp [isFormChar, or_assoc]

theorem isFormChar_of_mem_encodeForm {s : String} {c : Char} (h : c ∈ (encodeForm s).toList) :
    isFormChar c = true :=
  isFormChar_iff.mpr (mem_encodeForm h)

theorem isAlphanum_bounds {c : Char} (h : c.isAlphanum = true) :
    0x30 ≤ c.toNat ∧ c.toNat ≤ 0x7a := by
  have hcases : (c.isUpper = true ∨ c.isLower = true) ∨ c.isDigit = true :=
    (Bool.or_eq_true_iff.mp h).imp_left Bool.or_eq_true_iff.mp
  rcases hcases with (h | h) | h
  · obtain ⟨hge, hle⟩ := of_decide_eq_true h
    have hge : 65 ≤ c.toNat := hge
    have hle : c.toNat ≤ 90 := hle
    omega
  · obtain ⟨hge, hle⟩ := Bool.and_eq_true_iff.mp h
    have hge : 97 ≤ c.toNat := of_decide_eq_true hge
    have hle : c.toNat ≤ 122 := of_decide_eq_true hle
    omega
  · obtain ⟨hge, hle⟩ := Bool.and_eq_true_iff.mp h
    have hge : 48 ≤ c.toNat := of_decide_eq_true hge
    have hle : c.toNat ≤ 57 := of_decide_eq_true hle
    omega

theorem isBlank_eq_false_of_isFormChar {c : Char} (h : isFormChar c = true) :
    isBlank c = false := by
  by_cases hword : c.isAlphanum = true
  · obtain ⟨hge, hle⟩ := isAlphanum_bounds hword
    simp only [isBlank, Bool.or_eq_false_iff, Bool.and_eq_false_iff, decide_eq_false_iff_not,
      beq_eq_false_iff_ne]
    omega
  · have hmark : c ∈ ['*', '-', '.', '_', '+', '%'] := by
      simpa [isFormChar, isUnreserved, hword, or_assoc] using h
    have hmarks : ['*', '-', '.', '_', '+', '%'].any isBlank = false := by decide
    exact Bool.eq_false_iff.mpr (List.any_eq_false.mp hmarks c hmark)

@[simp] theorem trim_encodeForm (s : String) : trim (encodeForm s) = encodeForm s :=
  trim_of_all fun _ hc => isBlank_eq_false_of_isFormChar (isFormChar_of_mem_encodeForm hc)

theorem not_mem_encodeForm {c : Char} (h : isFormChar c = false) (s : String) :
    c ∉ (encodeForm s).toList := by
  intro hc
  rw [isFormChar_of_mem_encodeForm hc] at h
  exact Bool.noConfusion h

end TraceHeaders.Text

namespace TraceHeaders.HeaderValue

open Text

theorem decode_eq_pure {value decoded : String} (h : decodeForm value = .ok decoded) :
    decode value = pure decoded := by
  rw [decode, h]

theorem value_decode {value decoded : String} (h : decodeForm value = .ok decoded) :
    (decode value).value = decoded := by
  rw [decode_eq_pure h, Logged.value_pure]

theorem value_decode_of_error {value : String} {e : DecodeError} (h : decodeForm value = .error e) :
    (decode value).value = value := by
  rw [decode, h]
  rfl

end TraceHeaders.HeaderValue
