import Mathlib.Algebra.Group.Nat.Defs
import Mathlib.Data.List.Induction
import TraceHeaders.Proofs.Text.Pieces
import TraceHeaders.Sampling
import TraceHeaders.Text.Numeral

namespace TraceHeaders.Text

theorem digitValue?_digitChar_of_lt_sixteen :
    ∀ n ∈ List.range 16, digitValue? 16 (Nat.digitChar n) = some n := by
  decide

theorem isLowerHex_digitChar_of_lt_sixteen :
    ∀ n ∈ List.range 16, isLowerHex (Nat.digitChar n) = true := by
  decide

theorem digitValue?_digitChar {radix n : Nat} (hn : n < radix) (hradix : radix ≤ 16) :
    digitValue? radix (Nat.digitChar n) = some n := by
  have h := digitValue?_digitChar_of_lt_sixteen n (List.mem_range.mpr (by omega))
  simp only [digitValue?, Option.filter_eq_some_iff, decide_eq_true_eq] at h ⊢
  exact ⟨h.1, hn⟩

theorem isLowerHex_digitChar {n : Nat} (h : n < 16) : isLowerHex (Nat.digitChar n) = true :=
  isLowerHex_digitChar_of_lt_sixteen n (List.mem_range.mpr h)

theorem readDigits_append (radix limit value : Nat) (cs ds : List Char) :
    readDigits radix limit value (cs ++ ds) =
      (readDigits radix limit value cs).bind fun value => readDigits radix limit value ds := by
  induction cs generalizing value with
  | nil => rfl
  | cons c cs ih =>
      simp only [List.cons_append, readDigits]
      cases digitValue? radix c with
      | none => rfl
      | some digit =>
          dsimp only
          split
          · rfl
          · exact ih _

theorem readDigits_digitChar {radix limit value digit : Nat} (hdigit : digit < radix)
    (hradix : radix ≤ 16) (hlimit : value * radix + digit ≤ limit) :
    readDigits radix limit value [Nat.digitChar digit] = .ok (value * radix + digit) := by
  simp only [readDigits, digitValue?_digitChar hdigit hradix]
  rw [if_neg (by omega)]

theorem readDigits_toDigits {radix limit : Nat} (hradix : 1 < radix) (hsixteen : radix ≤ 16)
    (n : Nat) (hlimit : n ≤ limit) :
    readDigits radix limit 0 (Nat.toDigits radix n) = .ok n := by
  induction n using Nat.strongRecOn with
  | _ n ih =>
      rw [Nat.toDigits_eq_if hradix]
      split
      · rename_i hlt
        simpa using @readDigits_digitChar radix limit 0 n hlt hsixteen (by omega)
      · have hdiv : n / radix < n := Nat.div_lt_self (by omega) hradix
        have hmod : n % radix < radix := Nat.mod_lt n (by omega)
        have hsum : n / radix * radix + n % radix = n := Nat.div_add_mod' n radix
        rw [readDigits_append, ih (n / radix) hdiv (by omega)]
        change readDigits radix limit (n / radix) [Nat.digitChar (n % radix)] = .ok n
        rw [readDigits_digitChar hmod hsixteen (by omega), hsum]

theorem readDigits_hexWord (limit width n value : Nat)
    (hlimit : value * 16 ^ width + n % 16 ^ width ≤ limit) :
    readDigits 16 limit value (hexWord width n) =
      .ok (value * 16 ^ width + n % 16 ^ width) := by
  induction width generalizing n with
  | zero => simp [hexWord, readDigits, Nat.mod_one]
  | succ width ih =>
      have hmod : n % 16 ^ (width + 1) = n % 16 + 16 * (n / 16 % 16 ^ width) := by
        rw [Nat.pow_succ', Nat.mod_mul]
      have hvalue : value * 16 ^ (width + 1) = value * 16 ^ width * 16 := by
        rw [Nat.pow_succ, Nat.mul_assoc]
      rw [hmod, hvalue] at hlimit ⊢
      rw [hexWord, readDigits_append, ih (n / 16) (by omega)]
      change readDigits 16 limit (value * 16 ^ width + n / 16 % 16 ^ width)
        [Nat.digitChar (n % 16)] = _
      rw [readDigits_digitChar (Nat.mod_lt n (by decide)) le_rfl (by omega)]
      congr 1
      omega

theorem hexValue_append_digit (cs : List Char) (c : Char) :
    hexValue (cs ++ [c]) = hexValue cs * 16 + (digitValue? 16 c).getD 0 := by
  simp [hexValue]

theorem hexValue_hexWord (width n : Nat) : hexValue (hexWord width n) = n % 16 ^ width := by
  induction width generalizing n with
  | zero => simp [hexWord, hexValue, Nat.mod_one]
  | succ width ih =>
      rw [hexWord, hexValue_append_digit, ih,
        digitValue?_digitChar (Nat.mod_lt n (by decide)) le_rfl, Nat.pow_succ', Nat.mod_mul]
      simp only [Option.getD_some]
      omega

theorem isLowerHex_of_mem_hexWord {width n : Nat} {c : Char} (h : c ∈ hexWord width n) :
    isLowerHex c = true := by
  induction width generalizing n with
  | zero => exact absurd h List.not_mem_nil
  | succ width ih =>
      rw [hexWord, List.mem_append, List.mem_singleton] at h
      rcases h with h | rfl
      · exact ih h
      · exact isLowerHex_digitChar (Nat.mod_lt n (by decide))

theorem hexWord_append (high low n : Nat) :
    hexWord (high + low) n = hexWord high (n / 16 ^ low) ++ hexWord low n := by
  induction low generalizing n with
  | zero => simp [hexWord]
  | succ low ih =>
      rw [← Nat.add_assoc, hexWord, ih, hexWord, List.append_assoc, Nat.div_div_eq_div_mul,
        ← Nat.pow_succ']

theorem hexWord_mod (width n : Nat) : hexWord width (n % 16 ^ width) = hexWord width n := by
  induction width generalizing n with
  | zero => rfl
  | succ width ih =>
      have hdiv : n % 16 ^ (width + 1) / 16 = n / 16 % 16 ^ width := by
        rw [Nat.pow_succ', Nat.mod_mul_right_div_self]
      have hmod : n % 16 ^ (width + 1) % 16 = n % 16 := by
        rw [Nat.pow_succ', Nat.mod_mul_right_mod]
      rw [hexWord, hdiv, hmod, ih, hexWord]

theorem isLowerHex_of_mem_toDigits {radix n : Nat} {c : Char} (hradix : 1 < radix)
    (hsixteen : radix ≤ 16) (h : c ∈ Nat.toDigits radix n) : isLowerHex c = true := by
  induction n using Nat.strongRecOn with
  | _ n ih =>
      rw [Nat.toDigits_eq_if hradix] at h
      split at h
      · rename_i hlt
        rw [List.mem_singleton.mp h]
        exact isLowerHex_digitChar (by omega)
      · rcases List.mem_append.mp h with h | h
        · exact ih (n / radix) (Nat.div_lt_self (by omega) hradix) h
        · have hmod : n % radix < radix := Nat.mod_lt n (by omega)
          rw [List.mem_singleton.mp h]
          exact isLowerHex_digitChar (by omega)

theorem isLowerHex_bounds {c : Char} (h : isLowerHex c = true) :
    0x30 ≤ c.toNat ∧ c.toNat ≤ 0x66 ∧ (c.toNat ≤ 0x39 ∨ 0x61 ≤ c.toNat) := by
  simp only [isLowerHex, Char.isDigit, Bool.or_eq_true, Bool.and_eq_true, decide_eq_true_eq,
    Char.le_def, UInt32.le_iff_toNat_le, ge_iff_le] at h
  change 48 ≤ c.toNat ∧ c.toNat ≤ 57 ∨ 97 ≤ c.toNat ∧ c.toNat ≤ 102 at h
  omega

theorem isBlank_eq_false_of_isLowerHex {c : Char} (h : isLowerHex c = true) :
    isBlank c = false := by
  have hbounds := isLowerHex_bounds h
  simp only [isBlank, Bool.or_eq_false_iff, Bool.and_eq_false_iff, decide_eq_false_iff_not,
    beq_eq_false_iff_ne]
  omega

theorem isPrintableAscii_of_isLowerHex {c : Char} (h : isLowerHex c = true) :
    isPrintableAscii c = true := by
  have hbounds := isLowerHex_bounds h
  simp only [isPrintableAscii, Bool.and_eq_true, decide_eq_true_eq]
  omega

theorem ne_of_isLowerHex {c d : Char} (h : isLowerHex c = true) (hd : isLowerHex d = false) :
    c ≠ d := by
  rintro rfl
  rw [h] at hd
  exact Bool.false_ne_true hd.symm

theorem not_mem_of_isLowerHex {cs : List Char} {d : Char} (h : ∀ c ∈ cs, isLowerHex c = true)
    (hd : isLowerHex d = false) : d ∉ cs :=
  fun hmem => ne_of_isLowerHex (h d hmem) hd rfl

theorem isAscii_of_isLowerHex {c : Char} (h : isLowerHex c = true) : isAscii c = true := by
  have hbounds := isLowerHex_bounds h
  rw [isAscii, decide_eq_true_eq]
  omega

theorem utf8ByteSize_of_isLowerHex {s : String} (h : ∀ c ∈ s.toList, isLowerHex c = true) :
    s.utf8ByteSize = s.toList.length :=
  utf8ByteSize_of_isAscii fun c hc => isAscii_of_isLowerHex (h c hc)

theorem isLowerHex_of_mem_hexPadded {width n : Nat} {c : Char}
    (h : c ∈ (hexPadded width n).toList) : isLowerHex c = true := by
  rw [toList_hexPadded] at h
  exact isLowerHex_of_mem_hexWord h

theorem isLowerHex_of_mem_hex {n : Nat} {c : Char} (h : c ∈ (hex n).toList) :
    isLowerHex c = true := by
  rw [hex, String.toList_ofList] at h
  exact isLowerHex_of_mem_toDigits (by decide) le_rfl h

theorem isLowerHex_of_mem_decimal {n : Nat} {c : Char} (h : c ∈ (decimal n).toList) :
    isLowerHex c = true := by
  rw [decimal, String.toList_ofList] at h
  exact isLowerHex_of_mem_toDigits (by decide) (by decide) h

theorem trim_of_isLowerHex {s : String} (hne : s.toList ≠ [])
    (h : ∀ c ∈ s.toList, isLowerHex c = true) : trim s = s := by
  have hsolid : ∀ c ∈ s.toList, isBlank c = false := fun c hc =>
    isBlank_eq_false_of_isLowerHex (h c hc)
  exact trim_eq_self (startsSolid_of_all hne hsolid) (endsSolid_of_all hne hsolid)

@[simp] theorem trim_hexPadded (width n : Nat) : trim (hexPadded width n) = hexPadded width n := by
  cases width with
  | zero => rfl
  | succ width =>
      have hne : (hexPadded (width + 1) n).toList ≠ [] := by simp [hexWord]
      exact trim_of_isLowerHex hne fun _ => isLowerHex_of_mem_hexPadded

theorem trim_intercalate_of_isLowerHex (glue : String) {fields : List String}
    (hpos : ∀ field ∈ fields, 0 < field.toList.length)
    (hhex : ∀ field ∈ fields, ∀ c ∈ field.toList, isLowerHex c = true) :
    trim (glue.intercalate fields) = glue.intercalate fields := by
  have hne : ∀ field ∈ fields, field.toList ≠ [] := fun field hfield =>
    List.length_pos_iff.mp (hpos field hfield)
  have hsolid : ∀ field ∈ fields, StartsSolid field.toList := fun field hfield =>
    startsSolid_of_all (hne field hfield) fun c hc =>
      isBlank_eq_false_of_isLowerHex (hhex field hfield c hc)
  have hkeep : trimLast fields = fields := trimLast_eq_self fun field hfield =>
    trim_of_isLowerHex (hne field hfield) (hhex field hfield)
  rw [trim_intercalate glue hsolid, hkeep]

@[simp] theorem trim_decimal (n : Nat) : trim (decimal n) = decimal n :=
  trim_of_isLowerHex (by simp [decimal]) fun _ => isLowerHex_of_mem_decimal

theorem digitChar_eq_ofNat :
    (∀ n ∈ List.range 10, Nat.digitChar n = Char.ofNat (0x30 + n)) ∧
      ∀ n ∈ List.range 6, Nat.digitChar (10 + n) = Char.ofNat (0x61 + n) := by
  decide

theorem exists_digitChar_eq {c : Char} (h : isLowerHex c = true) :
    ∃ digit < 16, Nat.digitChar digit = c := by
  obtain ⟨hge, hle, hgap⟩ := isLowerHex_bounds h
  rcases hgap with hgap | hgap
  · refine ⟨c.toNat - 0x30, by omega, ?_⟩
    rw [digitChar_eq_ofNat.1 _ (List.mem_range.mpr (by omega)), Nat.add_sub_cancel' hge,
      Char.ofNat_toNat]
  · refine ⟨10 + (c.toNat - 0x61), by omega, ?_⟩
    rw [digitChar_eq_ofNat.2 _ (List.mem_range.mpr (by omega)), Nat.add_sub_cancel' hgap,
      Char.ofNat_toNat]

theorem hexWord_hexValue {cs : List Char} (h : ∀ c ∈ cs, isLowerHex c = true) :
    hexWord cs.length (hexValue cs) = cs ∧ hexValue cs < 16 ^ cs.length := by
  induction cs using List.reverseRecOn with
  | nil => exact ⟨rfl, Nat.one_pos⟩
  | append_singleton cs c ih =>
      obtain ⟨hword, hbound⟩ := ih fun d hd => h d (List.mem_append_left [c] hd)
      obtain ⟨digit, hdigit, rfl⟩ := exists_digitChar_eq (h c (by simp))
      have hdiv : (hexValue cs * 16 + digit) / 16 = hexValue cs := by omega
      have hmod : (hexValue cs * 16 + digit) % 16 = digit := by omega
      rw [hexValue_append_digit, digitValue?_digitChar hdigit le_rfl, Option.getD_some,
        List.length_append, List.length_singleton, hexWord, hdiv, hmod, hword, Nat.pow_succ]
      exact ⟨rfl, by omega⟩

theorem digitChar_eq_zero_iff_of_lt_sixteen :
    ∀ n ∈ List.range 16, (Nat.digitChar n = '0' ↔ n = 0) := by
  decide

theorem hexValue_eq_zero_iff {cs : List Char} (h : ∀ c ∈ cs, isLowerHex c = true) :
    hexValue cs = 0 ↔ ∀ c ∈ cs, c = '0' := by
  induction cs using List.reverseRecOn with
  | nil => exact iff_of_true rfl fun c hc => absurd hc List.not_mem_nil
  | append_singleton cs c ih =>
      have ih := ih fun d hd => h d (List.mem_append_left [c] hd)
      obtain ⟨digit, hdigit, rfl⟩ := exists_digitChar_eq (h c (by simp))
      rw [hexValue_append_digit, digitValue?_digitChar hdigit le_rfl, Option.getD_some,
        List.forall_mem_append, List.forall_mem_singleton, ← ih,
        digitChar_eq_zero_iff_of_lt_sixteen digit (List.mem_range.mpr hdigit)]
      omega

theorem readNat_of_isLowerHex (radix limit : Nat) {cs : List Char} (hne : cs ≠ [])
    (h : ∀ c ∈ cs, isLowerHex c = true) : readNat radix limit cs = readDigits radix limit 0 cs := by
  cases cs with
  | nil => exact absurd rfl hne
  | cons c cs =>
      have hplus : c ≠ '+' := ne_of_isLowerHex (h c List.mem_cons_self) (by decide)
      rw [readNat]
      · exact List.cons_ne_nil c cs
      · rintro d ds heq
        exact hplus (List.cons.inj heq).1

theorem readNat_hexPadded {limit width n : Nat} (hwidth : width ≠ 0) (hn : n < 16 ^ width)
    (hlimit : n ≤ limit) : readNat 16 limit (hexPadded width n).toList = .ok n := by
  have hne : hexWord width n ≠ [] := by
    rw [← List.length_pos_iff, hexWord_length]
    omega
  have hmod : n % 16 ^ width = n := Nat.mod_eq_of_lt hn
  have hread := readDigits_hexWord limit width n 0 (by omega)
  rw [toList_hexPadded, readNat_of_isLowerHex 16 limit hne fun c => isLowerHex_of_mem_hexWord,
    hread, hmod, Nat.zero_mul, Nat.zero_add]

theorem readNat_hex {limit n : Nat} (hlimit : n ≤ limit) :
    readNat 16 limit (hex n).toList = .ok n := by
  rw [readNat_of_isLowerHex 16 limit (by simp [hex]) fun c => isLowerHex_of_mem_hex, hex,
    String.toList_ofList, readDigits_toDigits (by decide) le_rfl n hlimit]

theorem readNat_decimal {limit n : Nat} (hlimit : n ≤ limit) :
    readNat 10 limit (decimal n).toList = .ok n := by
  rw [readNat_of_isLowerHex 10 limit (by simp [decimal]) fun c => isLowerHex_of_mem_decimal,
    decimal, String.toList_ofList, readDigits_toDigits (by decide) (by decide) n hlimit]

theorem digitValue?_ten_eq_some {c : Char} {digit : Nat} (h : digitValue? 10 c = some digit) :
    c.isDigit = true ∧ digit = c.toNat - '0'.toNat := by
  simp only [digitValue?, Option.filter_eq_some_iff, decide_eq_true_eq] at h
  obtain ⟨hvalue, hten⟩ := h
  split at hvalue
  · rename_i hdigit
    exact ⟨hdigit, (Option.some.inj hvalue).symm⟩
  · -- The letters are worth ten and more.
    split at hvalue
    · have := Option.some.inj hvalue
      omega
    · split at hvalue
      · have := Option.some.inj hvalue
        omega
      · exact absurd hvalue (Option.some_ne_none digit).symm

theorem readDigits_ten_eq_ok {limit value n : Nat} {cs : List Char} (hvalue : value ≤ limit)
    (h : readDigits 10 limit value cs = .ok n) :
    (∀ c ∈ cs, c.isDigit = true) ∧ n = Nat.ofDigitChars 10 cs value ∧ n ≤ limit := by
  induction cs generalizing value with
  | nil =>
      cases h
      exact ⟨fun c hc => absurd hc List.not_mem_nil, rfl, hvalue⟩
  | cons c cs ih =>
      rw [readDigits] at h
      split at h
      · cases h
      · rename_i digit hdigit
        obtain ⟨hc, rfl⟩ := digitValue?_ten_eq_some hdigit
        dsimp only at h
        split at h
        · cases h
        · rename_i hlimit
          obtain ⟨hcs, hn, hle⟩ := ih (Nat.not_lt.mp hlimit) h
          refine ⟨List.forall_mem_cons.mpr ⟨hc, hcs⟩, ?_, hle⟩
          rw [hn, Nat.mul_comm value 10]
          rfl

/-- Decimal digits, behind a plus sign or not, and their number. -/
def SpellsDecimal (cs : List Char) (n : Nat) : Prop :=
  ∃ digits, (cs = digits ∨ cs = '+' :: digits) ∧ digits ≠ [] ∧
    (∀ c ∈ digits, c.isDigit = true) ∧ Nat.ofDigitChars 10 digits 0 = n

theorem spellsDecimal_of_readNat {limit n : Nat} {cs : List Char}
    (h : readNat 10 limit cs = .ok n) : SpellsDecimal cs n ∧ n ≤ limit := by
  unfold readNat at h
  split at h
  · cases h
  · rename_i c cs
    obtain ⟨hdigits, hn, hle⟩ := readDigits_ten_eq_ok (Nat.zero_le limit) h
    exact ⟨⟨c :: cs, .inr rfl, List.cons_ne_nil c cs, hdigits, hn.symm⟩, hle⟩
  · rename_i hne _
    obtain ⟨hdigits, hn, hle⟩ := readDigits_ten_eq_ok (Nat.zero_le limit) h
    exact ⟨⟨cs, .inl rfl, hne, hdigits, hn.symm⟩, hle⟩

theorem isHex_bounds {c : Char} (h : isHex c = true) :
    isLowerHex c = true ∨ 0x41 ≤ c.toNat ∧ c.toNat ≤ 0x46 := by
  simp only [isHex, Bool.or_eq_true, Bool.and_eq_true, decide_eq_true_eq, Char.le_def,
    UInt32.le_iff_toNat_le] at h
  exact h

theorem isAscii_of_isHex {c : Char} (h : isHex c = true) : isAscii c = true := by
  rcases isHex_bounds h with hlower | hupper
  · exact isAscii_of_isLowerHex hlower
  · rw [isAscii, decide_eq_true_eq]
    omega

theorem isHex_of_digitValue? {c : Char} {digit : Nat} (h : digitValue? 16 c = some digit) :
    isHex c = true := by
  obtain ⟨hvalue, -⟩ := Option.filter_eq_some_iff.mp h
  simp only [isHex, isLowerHex, Bool.or_eq_true]
  split at hvalue
  · rename_i hdigit
    exact .inl (.inl hdigit)
  · split at hvalue
    · rename_i hlower
      exact .inl (.inr hlower)
    · split at hvalue
      · rename_i hupper
        exact .inr hupper
      · cases hvalue

theorem isSome_digitValue?_of_lt :
    ∀ n < 128, (digitValue? 16 (Char.ofNat n)).isSome = isHex (Char.ofNat n) := by
  decide

theorem exists_digitValue?_iff {c : Char} :
    (∃ digit, digitValue? 16 c = some digit) ↔ isHex c = true := by
  constructor
  · rintro ⟨digit, hdigit⟩
    exact isHex_of_digitValue? hdigit
  · intro hhex
    have hascii := isAscii_of_isHex hhex
    rw [isAscii, decide_eq_true_eq] at hascii
    have hsome := isSome_digitValue?_of_lt c.toNat hascii
    rw [Char.ofNat_toNat, hhex] at hsome
    exact Option.isSome_iff_exists.mp hsome

/-- The number of some digits with one more behind them. -/
def addHexDigit (value : Nat) (c : Char) : Nat := value * 16 + (digitValue? 16 c).getD 0

theorem le_foldl_addHexDigit (cs : List Char) (value : Nat) :
    value ≤ cs.foldl addHexDigit value := by
  induction cs generalizing value with
  | nil => exact le_rfl
  | cons c cs ih =>
      have hstep : value ≤ addHexDigit value c := by
        rw [addHexDigit]
        omega
      exact hstep.trans (ih (addHexDigit value c))

theorem readDigits_sixteen_eq_ok_iff {limit value n : Nat} {cs : List Char} (hvalue : value ≤ limit) :
    readDigits 16 limit value cs = .ok n ↔ (∀ c ∈ cs, isHex c = true) ∧
      cs.foldl addHexDigit value = n ∧ n ≤ limit := by
  induction cs generalizing value with
  | nil =>
      simp only [readDigits, Except.ok.injEq, List.not_mem_nil, false_imp_iff, implies_true,
        true_and, List.foldl_nil]
      constructor
      · rintro rfl
        exact ⟨rfl, hvalue⟩
      · exact And.left
  | cons c cs ih =>
      rw [readDigits, List.forall_mem_cons, List.foldl_cons, ← exists_digitValue?_iff]
      cases hdigit : digitValue? 16 c with
      | none => simp
      | some digit =>
          have hadd : addHexDigit value c = value * 16 + digit := by
            rw [addHexDigit, hdigit, Option.getD_some]
          have hle := le_foldl_addHexDigit cs (value * 16 + digit)
          rw [hadd]
          dsimp only
          split
          · rename_i hlimit
            refine iff_of_false nofun ?_
            rintro ⟨-, rfl, hn⟩
            omega
          · rename_i hlimit
            rw [ih (Nat.not_lt.mp hlimit)]
            simp

/-- Digits in hexadecimal and their number. -/
structure IsHexNumber (cs : List Char) (n : Nat) : Prop where
  nonempty : cs ≠ []
  digits : ∀ c ∈ cs, isHex c = true
  value : hexValue cs = n

/-- Digits in hexadecimal, behind a plus sign or not, and their number. -/
def SpellsHex (cs : List Char) (n : Nat) : Prop :=
  IsHexNumber cs n ∨ ∃ digits, cs = '+' :: digits ∧ IsHexNumber digits n

theorem mem_of_spellsHex {cs : List Char} {n : Nat} (h : SpellsHex cs n) :
    cs ≠ [] ∧ ∀ c ∈ cs, c = '+' ∨ isHex c = true := by
  rcases h with hnumber | ⟨digits, rfl, hnumber⟩
  · exact ⟨hnumber.nonempty, fun c hc => .inr (hnumber.digits c hc)⟩
  · exact ⟨List.cons_ne_nil _ _,
      List.forall_mem_cons.mpr ⟨.inl rfl, fun c hc => .inr (hnumber.digits c hc)⟩⟩

/-- What the sign adds to the numbers. -/
theorem isHexNumber_iff {cs : List Char} {n : Nat} :
    IsHexNumber cs n ↔ SpellsHex cs n ∧ '+' ∉ cs := by
  constructor
  · intro h
    exact ⟨.inl h, fun hplus => absurd (h.digits '+' hplus) (by decide)⟩
  · rintro ⟨h | ⟨digits, rfl, -⟩, hplus⟩
    · exact h
    · exact absurd List.mem_cons_self hplus

theorem isAscii_of_spellsHex {cs : List Char} {n : Nat} (h : SpellsHex cs n) :
    ∀ c ∈ cs, isAscii c = true := by
  intro c hc
  rcases (mem_of_spellsHex h).2 c hc with rfl | hhex
  · decide
  · exact isAscii_of_isHex hhex

theorem readDigits_hex_eq_ok_iff {limit n : Nat} {c : Char} {cs : List Char} :
    readDigits 16 limit 0 (c :: cs) = .ok n ↔ IsHexNumber (c :: cs) n ∧ n ≤ limit := by
  rw [readDigits_sixteen_eq_ok_iff (Nat.zero_le limit)]
  constructor
  · rintro ⟨hdigits, hvalue, hle⟩
    exact ⟨⟨List.cons_ne_nil c cs, hdigits, hvalue⟩, hle⟩
  · rintro ⟨⟨-, hdigits, hvalue⟩, hle⟩
    exact ⟨hdigits, hvalue, hle⟩

theorem readNat_hex_eq_ok_iff {limit n : Nat} {cs : List Char} :
    readNat 16 limit cs = .ok n ↔ SpellsHex cs n ∧ n ≤ limit := by
  rw [SpellsHex]
  unfold readNat
  split
  · refine iff_of_false nofun ?_
    rintro ⟨⟨hne, -⟩ | ⟨digits, hcs, -⟩, -⟩
    · exact hne rfl
    · cases hcs
  · rename_i c cs
    rw [readDigits_hex_eq_ok_iff]
    have hsigned : ¬ IsHexNumber ('+' :: c :: cs) n := fun h =>
      (isHexNumber_iff.mp h).2 List.mem_cons_self
    simp [hsigned]
  · rename_i hne hplus
    obtain ⟨c, cs, rfl⟩ := List.exists_cons_of_ne_nil hne
    rw [readDigits_hex_eq_ok_iff]
    have hunsigned : ¬ ∃ digits, c :: cs = '+' :: digits ∧ IsHexNumber digits n := by
      rintro ⟨digits, hcs, hdigits⟩
      obtain ⟨d, ds, rfl⟩ := List.exists_cons_of_ne_nil hdigits.nonempty
      exact hplus d ds hcs
    rw [or_iff_left hunsigned]

theorem toNat_le_limit (x : UInt64) : x.toNat ≤ UInt64.size - 1 :=
  Nat.le_sub_one_of_lt x.toNat_lt

@[simp] theorem readUInt64_decimal (x : UInt64) : readUInt64 10 (decimal x.toNat) = .ok x := by
  rw [readUInt64, readNat_decimal (toNat_le_limit x)]
  simp [Except.map]

@[simp] theorem readUInt64_hex (x : UInt64) : readUInt64 16 (hex x.toNat) = .ok x := by
  rw [readUInt64, readNat_hex (toNat_le_limit x)]
  simp [Except.map]

@[simp] theorem readUInt64_hexPadded (x : UInt64) :
    readUInt64 16 (hexPadded 16 x.toNat) = .ok x := by
  rw [readUInt64, readNat_hexPadded (by decide) x.toNat_lt (toNat_le_limit x)]
  simp [Except.map]

theorem exists_of_readUInt64 {radix : Nat} {s : String} {x : UInt64}
    (h : readUInt64 radix s = .ok x) :
    ∃ n, readNat radix (UInt64.size - 1) s.toList = .ok n ∧ UInt64.ofNat n = x := by
  rw [readUInt64] at h
  cases hread : readNat radix (UInt64.size - 1) s.toList with
  | error e =>
      rw [hread] at h
      cases h
  | ok n =>
      rw [hread] at h
      exact ⟨n, rfl, Except.ok.inj h⟩

theorem toNat_ofNat_of_le_limit {n : Nat} (h : n ≤ UInt64.size - 1) : (UInt64.ofNat n).toNat = n :=
  UInt64.toNat_ofNat_of_lt' (Nat.lt_of_le_of_lt h (by decide))

theorem spellsDecimal_of_readUInt64 {s : String} {x : UInt64} (h : readUInt64 10 s = .ok x) :
    SpellsDecimal s.toList x.toNat := by
  obtain ⟨n, hread, rfl⟩ := exists_of_readUInt64 h
  obtain ⟨hspells, hle⟩ := spellsDecimal_of_readNat hread
  rwa [toNat_ofNat_of_le_limit hle]

theorem readUInt64_hex_eq_ok_iff {s : String} {x : UInt64} :
    readUInt64 16 s = .ok x ↔ SpellsHex s.toList x.toNat := by
  constructor
  · intro h
    obtain ⟨n, hread, rfl⟩ := exists_of_readUInt64 h
    obtain ⟨hspells, hle⟩ := readNat_hex_eq_ok_iff.mp hread
    rwa [toNat_ofNat_of_le_limit hle]
  · intro h
    rw [readUInt64, readNat_hex_eq_ok_iff.mpr ⟨h, toNat_le_limit x⟩]
    exact congrArg Except.ok UInt64.ofNat_toNat

theorem hexValue_hexWord_toNat (x : UInt64) : hexValue (hexWord 16 x.toNat) = x.toNat := by
  rw [hexValue_hexWord]
  exact Nat.mod_eq_of_lt x.toNat_lt

theorem hexPadded_inj {x y : UInt64} :
    hexPadded 16 x.toNat = hexPadded 16 y.toNat ↔ x = y := by
  constructor
  · intro h
    have hread := congrArg (readUInt64 16) h
    rwa [readUInt64_hexPadded, readUInt64_hexPadded, Except.ok.injEq] at hread
  · rintro rfl
    rfl

theorem hexPadded_eq_zeros_iff {x : UInt64} : hexPadded 16 x.toNat = hexPadded 16 0 ↔ x = 0 := by
  have hzero : hexPadded 16 0 = hexPadded 16 (0 : UInt64).toNat := by rw [UInt64.toNat_zero]
  rw [hzero, hexPadded_inj]

theorem exists_hexPadded_eq {s : String} (hlength : s.toList.length = 16)
    (h : ∀ c ∈ s.toList, isLowerHex c = true) : ∃ x : UInt64, hexPadded 16 x.toNat = s := by
  obtain ⟨hword, hbound⟩ := hexWord_hexValue h
  rw [hlength] at hword hbound
  refine ⟨UInt64.ofNat (hexValue s.toList), ?_⟩
  have hsize : hexValue s.toList < 2 ^ 64 := hbound
  rw [UInt64.toNat_ofNat_of_lt' hsize, hexPadded, hword, String.ofList_toList]

theorem utf8ByteSize_decimal_le {n width : Nat} (hwidth : 0 < width) (h : n < 10 ^ width) :
    (decimal n).utf8ByteSize ≤ width := by
  rw [utf8ByteSize_of_isLowerHex fun c => isLowerHex_of_mem_decimal, decimal, String.toList_ofList]
  exact (Nat.length_toDigits_le_iff (by decide) hwidth).mpr h

theorem readInt8_decimal {n : Nat} (h : n ≤ 127) :
    readInt8 (decimal n) = .ok (Int8.ofInt n) := by
  have hread : readNat 10 127 (decimal n).toList = .ok n := readNat_decimal h
  have hminus : '-' ∉ (decimal n).toList :=
    not_mem_of_isLowerHex (fun c => isLowerHex_of_mem_decimal) (by decide)
  rw [readInt8]
  split
  · rename_i c cs heq
    exact absurd (heq ▸ List.mem_cons_self) hminus
  · rw [hread]
    rfl

theorem readInt8_minus_decimal {n : Nat} (h : n ≤ 128) :
    readInt8 ("-" ++ decimal n) = .ok (Int8.ofInt (-(n : Int))) := by
  obtain ⟨c, cs, hdigits⟩ := List.exists_cons_of_ne_nil (l := Nat.toDigits 10 n) (by simp)
  have hread : readDigits 10 128 0 (c :: cs) = .ok n :=
    hdigits ▸ readDigits_toDigits (by decide) (by decide) n h
  have hlist : ("-" ++ decimal n).toList = '-' :: c :: cs := by
    simp only [decimal, hdigits, String.toList_append, String.toList_ofList]
    rfl
  simp only [readInt8, hlist, hread]
  rfl

theorem readInt8_signedDecimal (x : Int8) : readInt8 (signedDecimal x.toInt) = .ok x := by
  have hle : x.toInt ≤ 127 := x.toInt_le
  have hge : -128 ≤ x.toInt := x.minValue_le_toInt
  cases hx : x.toInt with
  | ofNat n =>
      rw [hx] at hle
      have hn : n ≤ 127 := Int.ofNat_le.mp hle
      rw [signedDecimal, readInt8_decimal hn]
      exact congrArg Except.ok (by rw [← Int.ofNat_eq_natCast, ← hx, Int8.ofInt_toInt])
  | negSucc n =>
      rw [signedDecimal, readInt8_minus_decimal (by omega)]
      exact congrArg Except.ok (by
        rw [Int.natCast_add, Int.natCast_one, ← Int.negSucc_eq, ← hx, Int8.ofInt_toInt])

end TraceHeaders.Text

namespace TraceHeaders.SamplingPriority

open Text

theorem isKeep_ofKeep (keep : Bool) : (ofKeep keep).isKeep = keep := by
  cases keep <;> decide

theorem ofKeep_eq (keep : Bool) : ofKeep keep = ⟨if keep then 1 else 0⟩ := by
  cases keep <;> rfl

theorem isKeep_eq_iff {p : SamplingPriority} {keep : Bool} :
    p.isKeep = keep ↔ (0 < p.value ↔ keep = true) := by
  rw [Bool.eq_iff_iff, isKeep, decide_eq_true_iff]

theorem text_ne_nil (p : SamplingPriority) : p.text.toList ≠ [] := by
  unfold text signedDecimal
  split <;> simp [decimal]

theorem mem_text {p : SamplingPriority} {c : Char} (h : c ∈ p.text.toList) :
    c = '-' ∨ isLowerHex c = true := by
  unfold text signedDecimal at h
  split at h
  · exact .inr (isLowerHex_of_mem_decimal h)
  · rw [String.toList_append, List.mem_append] at h
    rcases h with h | h
    · exact .inl (List.mem_singleton.mp h)
    · exact .inr (isLowerHex_of_mem_decimal h)

theorem utf8ByteSize_text_le (p : SamplingPriority) : p.text.utf8ByteSize ≤ 4 := by
  have hle : p.value.toInt ≤ 127 := p.value.toInt_le
  have hge : -128 ≤ p.value.toInt := p.value.minValue_le_toInt
  unfold text signedDecimal
  split
  · rename_i n hn
    rw [hn] at hle
    have hbound : n ≤ 127 := Int.ofNat_le.mp hle
    have hsize : (decimal n).utf8ByteSize ≤ 3 := utf8ByteSize_decimal_le (by decide) (by omega)
    omega
  · rename_i n hn
    have hminus : "-".utf8ByteSize = 1 := by decide
    have hsize : (decimal (n + 1)).utf8ByteSize ≤ 3 :=
      utf8ByteSize_decimal_le (by decide) (by omega)
    rw [String.utf8ByteSize_append]
    omega

theorem isBlank_eq_false_of_mem_text {p : SamplingPriority} {c : Char} (h : c ∈ p.text.toList) :
    isBlank c = false := by
  rcases mem_text h with rfl | h
  · decide
  · exact isBlank_eq_false_of_isLowerHex h

@[simp] theorem trim_text (p : SamplingPriority) : trim p.text = p.text :=
  trim_eq_self (startsSolid_of_all p.text_ne_nil fun _ => isBlank_eq_false_of_mem_text)
    (endsSolid_of_all p.text_ne_nil fun _ => isBlank_eq_false_of_mem_text)

@[simp] theorem parse?_text (p : SamplingPriority) : parse? p.text = some p := by
  rw [parse?, trim_text, text, readInt8_signedDecimal]
  rfl

end TraceHeaders.SamplingPriority
