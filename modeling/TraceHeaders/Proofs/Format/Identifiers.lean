import TraceHeaders.Proofs.Format.B3
import TraceHeaders.Proofs.Format.Xray

namespace TraceHeaders

open Text

/-- A reading that gives what is acceptable, and fails for one reason when nothing is. -/
structure Reading.Accepts {α : Type} (read : Reading α) (accepts : α → Prop) (e : CodecError) :
    Prop where
  ok : ∀ a, read.outcome = .ok a ↔ accepts a
  failed : (¬ ∃ a, accepts a) → read.outcome = .error (.failed e)

theorem toOption_eq_some_iff {ε α : Type} {x : Except ε α} {a : α} :
    x.toOption = some a ↔ x = .ok a := by
  cases x <;> simp [Except.toOption]

theorem Reading.accepts_orFail {α : Type} {a? : Option α} {accepts : α → Prop} {e : CodecError}
    (h : ∀ a, a? = some a ↔ accepts a) : (orFail e a?).Accepts accepts e := by
  cases a? with
  | none =>
      refine ⟨fun a => ?_, fun _ => rfl⟩
      rw [← h]
      exact iff_of_false nofun nofun
  | some found =>
      refine ⟨fun a => ?_, fun hnone => absurd ⟨found, (h found).mp rfl⟩ hnone⟩
      rw [← h, outcome_orFail_some rfl, Except.ok.injEq, Option.some.injEq]

theorem Reading.Accepts.restrict_iff {α : Type} {read : Reading α} {accepts fewer : α → Prop}
    {e : CodecError} {condition : Prop} (h : read.Accepts accepts e)
    (hfewer : ∀ a, fewer a ↔ accepts a ∧ condition) :
    read.Accepts fewer e ↔ ((∃ a, accepts a) → condition) := by
  constructor
  · rintro hrestricted ⟨a, ha⟩
    exact ((hfewer a).mp ((hrestricted.ok a).mp ((h.ok a).mpr ha))).2
  · intro hcondition
    have hsame (a : α) : fewer a ↔ accepts a := by
      rw [hfewer]
      exact and_iff_left_of_imp fun ha => hcondition ⟨a, ha⟩
    simpa only [funext fun a => propext (hsame a)] using h

namespace Format

namespace B3

/-- A text that is a trace identifier between white space.  Up to sixteen characters give 64 bits, up to
thirty-two give 128. -/
inductive IsTraceId (spells : List Char → Nat → Prop) (value : String) : TraceId → Prop where
  | bits64 {id : UInt64} (hlength : (trim value).toList.length ≤ 16)
      (h : spells (trim value).toList id.toNat) : IsTraceId spells value (.bits64 id)
  | bits128 {upper lower : UInt64} (hlong : 16 < (trim value).toList.length)
      (hlength : (trim value).toList.length ≤ 32)
      (h : spells (trim value).toList (upper.toNat * 2 ^ 64 + lower.toNat)) :
      IsTraceId spells value (.bits128 upper lower)

/-- A text that is a span identifier between white space. -/
structure IsSpanId (spells : List Char → Nat → Prop) (value : String) (id : UInt64) : Prop where
  length : (trim value).toList.length ≤ 16
  spelled : spells (trim value).toList id.toNat

variable {value : String}

theorem utf8ByteSize_of_spellsHex {s : String} {n : Nat} (h : SpellsHex s.toList n) :
    s.utf8ByteSize = s.toList.length ∧ 0 < s.toList.length :=
  ⟨utf8ByteSize_of_isAscii (isAscii_of_spellsHex h), List.length_pos_iff.mpr (mem_of_spellsHex h).1⟩

theorem parseTraceId?_eq_some_iff {id : TraceId} :
    parseTraceId? value = some id ↔ IsTraceId SpellsHex value id := by
  constructor
  · intro h
    simp only [parseTraceId?] at h
    split at h
    · cases h
    · split at h
      · rename_i hsize
        obtain ⟨lower, hlower, rfl⟩ := Option.map_eq_some_iff.mp h
        have hspells := readUInt64_hex_eq_ok_iff.mp (toOption_eq_some_iff.mp hlower)
        rw [(utf8ByteSize_of_spellsHex hspells).1] at hsize
        exact .bits64 hsize hspells
      · split at h
        · rename_i hlong hsize
          obtain ⟨n, hn, rfl⟩ := Option.map_eq_some_iff.mp h
          obtain ⟨hspells, hle⟩ := readNat_hex_eq_ok_iff.mp (toOption_eq_some_iff.mp hn)
          rw [(utf8ByteSize_of_spellsHex hspells).1] at hlong hsize
          have hwide : (TraceId.wide n).toNat = n :=
            TraceId.toNat_wide (Nat.lt_of_le_of_lt hle (by decide))
          refine .bits128 (Nat.not_le.mp hlong) hsize ?_
          rw [← hwide] at hspells
          exact hspells
        · cases h
  · rintro (⟨hlength, h⟩ | ⟨hlong, hlength, h⟩)
    · obtain ⟨hsize, hpos⟩ := utf8ByteSize_of_spellsHex h
      simp only [parseTraceId?, hsize]
      rw [if_neg (by omega), if_pos hlength, readUInt64_hex_eq_ok_iff.mpr h]
      rfl
    · rename_i upper lower
      obtain ⟨hsize, hpos⟩ := utf8ByteSize_of_spellsHex h
      have hread := readNat_hex_eq_ok_iff.mpr ⟨h, toNat_le_limit (.bits128 upper lower)⟩
      have hwide : TraceId.wide (upper.toNat * 2 ^ 64 + lower.toNat) = .bits128 upper lower :=
        TraceId.wide_toNat (.bits128 upper lower)
      simp only [parseTraceId?, hsize]
      rw [if_neg (by omega), if_neg (by omega), if_pos hlength, hread]
      exact congrArg some hwide

theorem parseSpanId?_eq_some_iff {id : UInt64} :
    parseSpanId? value = some id ↔ IsSpanId SpellsHex value id := by
  constructor
  · intro h
    simp only [parseSpanId?] at h
    split at h
    · cases h
    · rename_i hsize
      rw [toOption_eq_some_iff, readUInt64_hex_eq_ok_iff] at h
      rw [(utf8ByteSize_of_spellsHex h).1] at hsize
      exact ⟨by omega, h⟩
  · rintro ⟨hlength, h⟩
    obtain ⟨hsize, hpos⟩ := utf8ByteSize_of_spellsHex h
    simp only [parseSpanId?, hsize]
    rw [if_neg (by omega), readUInt64_hex_eq_ok_iff.mpr h]
    rfl

theorem isTraceId_isHexNumber_iff {id : TraceId} : IsTraceId IsHexNumber value id ↔
    IsTraceId SpellsHex value id ∧ '+' ∉ (trim value).toList := by
  constructor
  · rintro (⟨hlength, h⟩ | ⟨hlong, hlength, h⟩)
    · obtain ⟨hspells, hplus⟩ := isHexNumber_iff.mp h
      exact ⟨.bits64 hlength hspells, hplus⟩
    · obtain ⟨hspells, hplus⟩ := isHexNumber_iff.mp h
      exact ⟨.bits128 hlong hlength hspells, hplus⟩
  · rintro ⟨⟨hlength, h⟩ | ⟨hlong, hlength, h⟩, hplus⟩
    · exact .bits64 hlength (isHexNumber_iff.mpr ⟨h, hplus⟩)
    · exact .bits128 hlong hlength (isHexNumber_iff.mpr ⟨h, hplus⟩)

theorem isSpanId_isHexNumber_iff {id : UInt64} : IsSpanId IsHexNumber value id ↔
    IsSpanId SpellsHex value id ∧ '+' ∉ (trim value).toList := by
  constructor
  · rintro ⟨hlength, h⟩
    obtain ⟨hspells, hplus⟩ := isHexNumber_iff.mp h
    exact ⟨⟨hlength, hspells⟩, hplus⟩
  · rintro ⟨⟨hlength, h⟩, hplus⟩
    exact ⟨hlength, isHexNumber_iff.mpr ⟨h, hplus⟩⟩

theorem accepts_readTraceId (style : Style) (value : String) :
    (readTraceId style value).Accepts (IsTraceId SpellsHex value)
      (.unreadable style (.undecodable .traceId)) :=
  Reading.accepts_orFail fun _ => parseTraceId?_eq_some_iff

theorem accepts_readSpanId (style : Style) (value : String) :
    (readSpanId style value).Accepts (IsSpanId SpellsHex value)
      (.unreadable style (.undecodable .spanId)) :=
  Reading.accepts_orFail fun _ => parseSpanId?_eq_some_iff

end B3

namespace Xray

/-- The text of a root, of which the last sixteen characters are its number. -/
inductive IsRoot (isTime isFiller : String → Prop) (spells : List Char → Nat → Prop) :
    String → TraceId → Prop where
  | parts {time filler digits : String} {id : UInt64} (htime : isTime time)
      (hfiller : isFiller filler) (hlength : digits.toList.length = 16)
      (hdigits : spells digits.toList id.toNat) :
      IsRoot isTime isFiller spells (rootText time filler digits) (.bits64 id)

theorem exists_of_isRun_add {isOfKind : Char → Bool} {m n : Nat} {s : String}
    (h : IsRun isOfKind (m + n) s) :
    ∃ before after, s = before ++ after ∧ IsRun isOfKind m before ∧ IsRun isOfKind n after := by
  obtain ⟨hlength, hkind⟩ := h
  refine ⟨String.ofList (s.toList.take m), String.ofList (s.toList.drop m), ?_, ⟨?_, ?_⟩, ⟨?_, ?_⟩⟩
  · rw [← String.ofList_append, List.take_append_drop, String.ofList_toList]
  · simp [hlength]
  · rw [String.toList_ofList]
    exact fun c hc => hkind c (List.mem_of_mem_take hc)
  · simp [hlength]
  · rw [String.toList_ofList]
    exact fun c hc => hkind c (List.mem_of_mem_drop hc)

theorem measured_or_failed (root : String) :
    (∃ time filler digits, root = rootText time filler digits ∧ IsTime time ∧
      IsRun isAscii 8 filler ∧ IsRun isAscii 16 digits) ∨
    (readRoot root).outcome = .error (.failed (unreadable .traceId)) := by
  refine (isMeasured_or_failed root).imp_left ?_
  rintro ⟨unique, ⟨ids, time, hafter, hcut, htime⟩, hunique, hascii⟩
  obtain ⟨hdash, hids⟩ := cut?_eq_some_iff.mp hcut
  rw [utf8ByteSize_of_isAscii hascii] at hunique
  obtain ⟨filler, digits, rfl, hfiller, hdigits⟩ :=
    exists_of_isRun_add (show _ = 8 + 16 ∧ _ from ⟨hunique, hascii⟩)
  refine ⟨time, filler, digits, ?_, ⟨hdash, htime⟩, hfiller, hdigits⟩
  rw [after?_eq_some_iff.mp hafter, hids]
  rfl

theorem outcome_readRoot_of_isRoot {root : String} {id : TraceId}
    (h : IsRoot IsTime (IsRun isAscii 8) SpellsHex root id) : (readRoot root).outcome = .ok id := by
  obtain ⟨htime, hfiller, hlength, hdigits⟩ := h
  have hascii := isAscii_of_spellsHex hdigits
  rw [outcome_readRoot_of_measured htime hfiller ⟨hlength, hascii⟩,
    readUInt64_hex_eq_ok_iff.mpr hdigits]
  rfl

theorem toList_rootText (time filler digits : String) : (rootText time filler digits).toList =
    '1' :: '-' :: (time.toList ++ '-' :: (filler.toList ++ digits.toList)) := by
  simp [rootText]

theorem isTime_of_isRun {time : String} (h : IsRun isHex 8 time) : IsTime time := by
  refine ⟨fun hdash => absurd (h.2 '-' hdash) (by decide), ?_⟩
  rw [utf8ByteSize_of_isAscii fun c hc => isAscii_of_isHex (h.2 c hc), h.1]

/-- The roots that are read are those of digits alone when there are two dashes and digits. -/
theorem isRoot_isHexNumber_iff {root : String} {id : TraceId} :
    IsRoot (IsRun isHex 8) (IsRun isHex 8) IsHexNumber root id ↔
      IsRoot IsTime (IsRun isAscii 8) SpellsHex root id ∧
      (∀ c ∈ root.toList, c = '-' ∨ isHex c = true) ∧ root.toList.count '-' = 2 := by
  have hone : isHex '1' = true := by decide
  constructor
  · rintro ⟨htime, hfiller, hlength, hdigits⟩
    rename_i time filler digits id
    have hdash {cs : List Char} (h : ∀ c ∈ cs, isHex c = true) : cs.count '-' = 0 :=
      List.count_eq_zero.mpr fun hmem => absurd (h '-' hmem) (by decide)
    have hascii : IsRun isAscii 8 filler :=
      ⟨hfiller.1, fun c hc => isAscii_of_isHex (hfiller.2 c hc)⟩
    refine ⟨.parts (isTime_of_isRun htime) hascii hlength (.inl hdigits), ?_, ?_⟩
    · rw [toList_rootText]
      intro c hc
      simp only [List.mem_cons, List.mem_append] at hc
      rcases hc with rfl | rfl | hc | rfl | hc | hc
      · exact .inr hone
      · exact .inl rfl
      · exact .inr (htime.2 c hc)
      · exact .inl rfl
      · exact .inr (hfiller.2 c hc)
      · exact .inr (hdigits.digits c hc)
    · simp [toList_rootText, hdash htime.2, hdash hfiller.2, hdash hdigits.digits]
  · rintro ⟨⟨htime, hfiller, hlength, hdigits⟩, hchars, hdashes⟩
    rename_i time filler digits id
    have hpart {part : String} (hmem : ∀ c ∈ part.toList, c ∈ (rootText time filler digits).toList)
        (hdash : '-' ∉ part.toList) : ∀ c ∈ part.toList, isHex c = true := by
      intro c hc
      refine (hchars c (hmem c hc)).resolve_left ?_
      rintro rfl
      exact hdash hc
    have htimeHex := hpart (fun c hc => by simp [toList_rootText, hc]) htime.1
    have hrest : '-' ∉ filler.toList ∧ '-' ∉ digits.toList := by
      simpa [toList_rootText, List.count_eq_zero.mpr htime.1, List.count_eq_zero] using hdashes
    have hfillerHex := hpart (fun c hc => by simp [toList_rootText, hc]) hrest.1
    have hdigitsHex := hpart (fun c hc => by simp [toList_rootText, hc]) hrest.2
    have hsize : time.toList.length = 8 := by
      rw [← utf8ByteSize_of_isAscii fun c hc => isAscii_of_isHex (htimeHex c hc), htime.2]
    have hplus : '+' ∉ digits.toList := fun hmem => absurd (hdigitsHex '+' hmem) (by decide)
    exact .parts ⟨hsize, htimeHex⟩ ⟨hfiller.1, hfillerHex⟩ hlength
      (isHexNumber_iff.mpr ⟨hdigits, hplus⟩)

theorem isRoot_or_failed (root : String) :
    (∃ id, IsRoot IsTime (IsRun isAscii 8) SpellsHex root id) ∨
      (readRoot root).outcome = .error (.failed (unreadable .traceId)) := by
  rcases measured_or_failed root with ⟨time, filler, digits, rfl, htime, hfiller, hdigits⟩ | hfailed
  · cases hread : readUInt64 16 digits with
    | error e =>
        right
        rw [outcome_readRoot_of_measured htime hfiller hdigits, hread]
        rfl
    | ok id =>
        exact .inl ⟨_, .parts htime hfiller hdigits.1 (readUInt64_hex_eq_ok_iff.mp hread)⟩
  · exact .inr hfailed

theorem accepts_readRoot (root : String) :
    (readRoot root).Accepts (IsRoot IsTime (IsRun isAscii 8) SpellsHex root)
      (unreadable .traceId) := by
  refine ⟨fun id => ⟨fun hok => ?_, outcome_readRoot_of_isRoot⟩, (isRoot_or_failed root).resolve_left⟩
  rcases isRoot_or_failed root with ⟨other, hroot⟩ | hfailed
  · rw [outcome_readRoot_of_isRoot hroot] at hok
    cases hok
    exact hroot
  · rw [hfailed] at hok
    cases hok

end Xray

/-- Which texts are read as identifiers, all others being reported as undecodable.  A text is treated as if
digits alone were read unless it is accepted with a sign, or with other characters than digits and two
dashes in a root. -/
theorem identifiers_accepted_iff (style : Style) (value root : String) :
    ((B3.readTraceId style value).Accepts (B3.IsTraceId SpellsHex value)
        (.unreadable style (.undecodable .traceId)) ∧
      ((B3.readTraceId style value).Accepts (B3.IsTraceId IsHexNumber value)
          (.unreadable style (.undecodable .traceId)) ↔
        ((∃ id, B3.IsTraceId SpellsHex value id) → '+' ∉ (trim value).toList))) ∧
    ((B3.readSpanId style value).Accepts (B3.IsSpanId SpellsHex value)
        (.unreadable style (.undecodable .spanId)) ∧
      ((B3.readSpanId style value).Accepts (B3.IsSpanId IsHexNumber value)
          (.unreadable style (.undecodable .spanId)) ↔
        ((∃ id, B3.IsSpanId SpellsHex value id) → '+' ∉ (trim value).toList))) ∧
    (Xray.readRoot root).Accepts (Xray.IsRoot Xray.IsTime (Xray.IsRun isAscii 8) SpellsHex root)
        (.unreadable .xray (.undecodable .traceId)) ∧
      ((Xray.readRoot root).Accepts
          (Xray.IsRoot (Xray.IsRun isHex 8) (Xray.IsRun isHex 8) IsHexNumber root)
          (.unreadable .xray (.undecodable .traceId)) ↔
        ((∃ id, Xray.IsRoot Xray.IsTime (Xray.IsRun isAscii 8) SpellsHex root id) →
          (∀ c ∈ root.toList, c = '-' ∨ isHex c = true) ∧ root.toList.count '-' = 2)) := by
  have htrace := B3.accepts_readTraceId style value
  have hspan := B3.accepts_readSpanId style value
  have hroot := Xray.accepts_readRoot root
  exact ⟨⟨htrace, htrace.restrict_iff fun _ => B3.isTraceId_isHexNumber_iff⟩,
    ⟨hspan, hspan.restrict_iff fun _ => B3.isSpanId_isHexNumber_iff⟩,
    hroot, hroot.restrict_iff fun _ => Xray.isRoot_isHexNumber_iff⟩

/-- Signs and times that are no numbers go through. -/
theorem not_identifiers_of_digits :
    (¬ ∀ style value, (B3.readTraceId style value).Accepts (B3.IsTraceId IsHexNumber value)
      (.unreadable style (.undecodable .traceId))) ∧
    (¬ ∀ style value, (B3.readSpanId style value).Accepts (B3.IsSpanId IsHexNumber value)
      (.unreadable style (.undecodable .spanId))) ∧
    ¬ ∀ root, (Xray.readRoot root).Accepts
      (Xray.IsRoot (Xray.IsRun isHex 8) (Xray.IsRun isHex 8) IsHexNumber root)
      (.unreadable .xray (.undecodable .traceId)) := by
  refine ⟨fun h => ?_, fun h => ?_, fun h => ?_⟩
  · have hread : (B3.readTraceId .b3Multi "+1").outcome = .ok (.bits64 1) := by decide
    have hplus := (B3.isTraceId_isHexNumber_iff.mp (((h .b3Multi "+1").ok _).mp hread)).2
    exact hplus (by decide)
  · have hread : (B3.readSpanId .b3Multi "+1").outcome = .ok 1 := by decide
    have hplus := (B3.isSpanId_isHexNumber_iff.mp (((h .b3Multi "+1").ok _).mp hread)).2
    exact hplus (by decide)
  · have hread : (Xray.readRoot "1-daylight-000000000000000000000001").outcome =
        .ok (.bits64 1) := by decide
    have hchars := (Xray.isRoot_isHexNumber_iff.mp ((h _).ok _ |>.mp hread)).2.1
    exact absurd (hchars 'y' (by decide)) (by decide)

end Format

end TraceHeaders
