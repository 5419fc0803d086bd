import TraceHeaders.Format.TraceContext.TraceParent
import TraceHeaders.Proofs.Text.Numeral
import TraceHeaders.Proofs.TraceId

namespace TraceHeaders.Format.TraceContext

open Text

/-- Lowercase hexadecimal digits, as many as the field is wide. -/
def IsField (width : Nat) (cs : List Char) : Prop :=
  cs.length = width ∧ ∀ c ∈ cs, isLowerHex c = true

theorem takeField?_append {width : Nat} {field : List Char} (h : IsField width field)
    (rest : List Char) : takeField? width (field ++ rest) = some (field, rest) := by
  have htake : (field ++ rest).take width = field := by
    rw [← h.1, List.take_left]
  have hdrop : (field ++ rest).drop width = rest := by
    rw [← h.1, List.drop_left]
  simp only [takeField?, htake, hdrop]
  rw [if_pos ⟨h.1, List.all_eq_true.mpr h.2⟩]

theorem takeField?_eq_some_iff {width : Nat} {cs field rest : List Char} :
    takeField? width cs = some (field, rest) ↔ IsField width field ∧ cs = field ++ rest := by
  constructor
  · intro h
    simp only [takeField?] at h
    split at h
    · rename_i hfield
      obtain ⟨rfl, rfl⟩ := Prod.mk.inj (Option.some.inj h)
      exact ⟨⟨hfield.1, List.all_eq_true.mp hfield.2⟩, (List.take_append_drop width cs).symm⟩
    · exact absurd h (Option.some_ne_none _).symm
  · rintro ⟨hfield, rfl⟩
    exact takeField?_append hfield rest

theorem takeDash?_eq_some_iff {cs rest : List Char} :
    takeDash? cs = some rest ↔ cs = '-' :: rest := by
  constructor
  · intro h
    unfold takeDash? at h
    split at h
    · rw [Option.some.inj h]
    · exact absurd h (Option.some_ne_none rest).symm
  · rintro rfl
    rfl

theorem isTail_iff {cs : List Char} :
    isTail cs = true ↔ cs = [] ∨ ∃ rest, cs = '-' :: rest ∧ '\n' ∉ rest := by
  constructor
  · intro h
    unfold isTail at h
    split at h
    · exact .inl rfl
    · rename_i rest
      rw [List.all_eq_true] at h
      exact .inr ⟨rest, rfl, fun hmem => absurd (h '\n' hmem) (by decide)⟩
    · exact absurd h Bool.false_ne_true
  · rintro (rfl | ⟨rest, rfl, hrest⟩)
    · rfl
    · rw [isTail, List.all_eq_true]
      rintro c hc
      rw [bne_iff_ne]
      rintro rfl
      exact hrest hc

namespace TraceParentFields

/-- The fields spell a text: they make it up with dashes between them, each is as wide as it has to be,
and what follows the flags is on their line, behind another dash. -/
structure Spells (fields : TraceParentFields) (cs : List Char) : Prop where
  text : cs = fields.version ++ '-' :: (fields.traceId ++ '-' :: (fields.spanId ++
    '-' :: (fields.flags ++ fields.tail)))
  version : IsField 2 fields.version
  traceId : IsField 32 fields.traceId
  spanId : IsField 16 fields.spanId
  flags : IsField 2 fields.flags
  tail : fields.tail = [] ∨ ∃ rest, fields.tail = '-' :: rest ∧ '\n' ∉ rest

/-- A text is read as the fields that spell it, and there are no others. -/
theorem parse?_eq_some_iff {cs : List Char} {fields : TraceParentFields} :
    parse? cs = some fields ↔ fields.Spells cs := by
  simp only [parse?, Option.bind_eq_bind, Option.bind_eq_some_iff, Prod.exists,
    takeField?_eq_some_iff, takeDash?_eq_some_iff]
  constructor
  · rintro ⟨version, _, ⟨hversion, rfl⟩, _, rfl, traceId, _, ⟨htrace, rfl⟩, _, rfl, spanId, _,
      ⟨hspan, rfl⟩, _, rfl, flags, tail, ⟨hflags, rfl⟩, h⟩
    split at h
    · rename_i htail
      cases h
      exact ⟨rfl, hversion, htrace, hspan, hflags, isTail_iff.mp htail⟩
    · exact absurd h (Option.some_ne_none fields).symm
  · intro h
    refine ⟨fields.version, _, ⟨h.version, h.text⟩, _, rfl, fields.traceId, _, ⟨h.traceId, rfl⟩, _,
      rfl, fields.spanId, _, ⟨h.spanId, rfl⟩, _, rfl, fields.flags, fields.tail, ⟨h.flags, rfl⟩, ?_⟩
    rw [if_pos (isTail_iff.mpr h.tail)]

/-- What the standard asks of the values: identifiers that are not all zeros and a version that it does
not rule out.  In the version that is fully known, nothing follows the flags but a dash, and only the two
lowest flags are set, not both. -/
structure IsAccepted (fields : TraceParentFields) : Prop where
  traceId : ∃ c ∈ fields.traceId, c ≠ '0'
  spanId : ∃ c ∈ fields.spanId, c ≠ '0'
  version : fields.version ≠ ['f', 'f']
  tail : fields.version = ['0', '0'] → fields.tail = [] ∨ fields.tail = ['-']
  flags : fields.version = ['0', '0'] → hexValue fields.flags ≤ 2

theorem hexValue_ne_zero_iff {width : Nat} {cs : List Char} (h : IsField width cs) :
    ¬ hexValue cs = 0 ↔ ∃ c ∈ cs, c ≠ '0' := by
  rw [hexValue_eq_zero_iff h.2]
  push Not
  rfl

theorem isKnownVersion_iff {fields : TraceParentFields} :
    fields.isKnownVersion = true ↔ fields.version = ['0', '0'] :=
  beq_iff_eq

/-- The checks are made one after another, and what passes all of them is what the standard accepts. -/
theorem defect?_eq_none_iff {fields : TraceParentFields} {cs : List Char} (h : fields.Spells cs) :
    fields.defect? = none ↔ fields.IsAccepted := by
  have hchecks : fields.defect? = none ↔ ¬ hexValue fields.traceId = 0 ∧
      ¬ hexValue fields.spanId = 0 ∧ fields.version ≠ ['f', 'f'] ∧
      (fields.version = ['0', '0'] → fields.tail = [] ∨ fields.tail = ['-']) ∧
      (fields.version = ['0', '0'] → hexValue fields.flags ≤ 2) := by
    rw [defect?, ← isKnownVersion_iff]
    grind
  rw [hchecks, hexValue_ne_zero_iff h.traceId, hexValue_ne_zero_iff h.spanId]
  constructor
  · rintro ⟨htrace, hspan, hversion, htail, hflags⟩
    exact ⟨htrace, hspan, hversion, htail, hflags⟩
  · rintro ⟨htrace, hspan, hversion, htail, hflags⟩
    exact ⟨htrace, hspan, hversion, htail, hflags⟩

theorem toNat_toTraceParent {fields : TraceParentFields} {cs : List Char} (h : fields.Spells cs) :
    fields.toTraceParent.traceId.toNat = hexValue fields.traceId ∧
      fields.toTraceParent.spanId.toNat = hexValue fields.spanId := by
  have htrace := (hexWord_hexValue h.traceId.2).2
  have hspan := (hexWord_hexValue h.spanId.2).2
  rw [h.traceId.1] at htrace
  rw [h.spanId.1] at hspan
  exact ⟨TraceId.toNat_wide htrace, UInt64.toNat_ofNat_of_lt' hspan⟩

end TraceParentFields

theorem parse_eq_ok_iff {s : String} {parent : TraceParent} :
    TraceParent.parse s = .ok parent ↔ ∃ fields : TraceParentFields, fields.Spells s.toList ∧
      fields.IsAccepted ∧ fields.toTraceParent = parent := by
  constructor
  · intro h
    rw [TraceParent.parse] at h
    split at h
    · cases h
    · rename_i fields hfields
      have hspells := TraceParentFields.parse?_eq_some_iff.mp hfields
      split at h
      · cases h
      · rename_i hdefect
        exact ⟨fields, hspells, (TraceParentFields.defect?_eq_none_iff hspells).mp hdefect,
          Except.ok.inj h⟩
  · rintro ⟨fields, hspells, haccepted, rfl⟩
    simp only [TraceParent.parse, TraceParentFields.parse?_eq_some_iff.mpr hspells,
      (TraceParentFields.defect?_eq_none_iff hspells).mpr haccepted]

theorem identified_of_parse {s : String} {parent : TraceParent} (h : TraceParent.parse s = .ok parent) :
    parent.traceId.isZero = false ∧ parent.spanId ≠ 0 := by
  obtain ⟨fields, hspells, haccepted, rfl⟩ := parse_eq_ok_iff.mp h
  obtain ⟨htrace, hspan⟩ := TraceParentFields.toNat_toTraceParent hspells
  constructor
  · rw [Bool.eq_false_iff, Ne, TraceId.isZero_iff, htrace]
    exact (TraceParentFields.hexValue_ne_zero_iff hspells.traceId).mpr haccepted.traceId
  · intro hzero
    rw [hzero, UInt64.toNat_zero] at hspan
    exact (TraceParentFields.hexValue_ne_zero_iff hspells.spanId).mpr haccepted.spanId hspan.symm

def flagDigits (sampled : Bool) : List Char := if sampled then ['0', '1'] else ['0', '0']

theorem isField_flagDigits (sampled : Bool) : IsField 2 (flagDigits sampled) := by
  rw [IsField, ← List.all_eq_true]
  cases sampled <;> decide

theorem isField_hexWord (width n : Nat) : IsField width (hexWord width n) :=
  ⟨hexWord_length width n, fun _ => isLowerHex_of_mem_hexWord⟩

theorem isField_zeros : IsField 2 ['0', '0'] := by
  rw [IsField, ← List.all_eq_true]
  decide

def renderedFields (traceId : TraceId) (spanId : UInt64) (sampled : Bool) : TraceParentFields where
  version := ['0', '0']
  traceId := hexWord 32 traceId.toNat
  spanId := hexWord 16 spanId.toNat
  flags := flagDigits sampled
  tail := []

theorem toList_render (traceId : TraceId) (spanId : UInt64) (sampled : Bool) :
    (TraceParent.render traceId spanId sampled).toList =
      ['0', '0'] ++ '-' :: (hexWord 32 traceId.toNat ++ '-' :: (hexWord 16 spanId.toNat ++
        '-' :: flagDigits sampled)) := by
  have hstart : "00-".toList = ['0', '0'] ++ ['-'] := by decide
  have hdash : "-".toList = ['-'] := by decide
  have hflags : (if sampled then "-01" else "-00").toList = '-' :: flagDigits sampled := by
    cases sampled <;> decide
  simp only [TraceParent.render, String.toList_append, toList_hexPadded, hstart, hdash, hflags,
    List.append_assoc, List.cons_append, List.nil_append]

theorem spells_render (traceId : TraceId) (spanId : UInt64) (sampled : Bool) :
    (renderedFields traceId spanId sampled).Spells
      (TraceParent.render traceId spanId sampled).toList where
  text := by
    rw [toList_render, renderedFields, List.append_nil]
  version := isField_zeros
  traceId := isField_hexWord 32 _
  spanId := isField_hexWord 16 _
  flags := isField_flagDigits sampled
  tail := .inl rfl

theorem hexValue_flagDigits (sampled : Bool) :
    hexValue (flagDigits sampled) = sampled.toNat := by
  cases sampled <;> decide

theorem hexValue_traceId (id : TraceId) : hexValue (hexWord 32 id.toNat) = id.toNat := by
  rw [hexValue_hexWord]
  exact Nat.mod_eq_of_lt id.toNat_lt

theorem isAccepted_renderedFields {traceId : TraceId} {spanId : UInt64}
    (htrace : traceId.isZero = false) (hspan : spanId ≠ 0) (sampled : Bool) :
    (renderedFields traceId spanId sampled).IsAccepted where
  traceId := by
    rw [renderedFields, ← TraceParentFields.hexValue_ne_zero_iff (isField_hexWord 32 _),
      hexValue_traceId, ← TraceId.isZero_iff, htrace]
    exact Bool.false_ne_true
  spanId := by
    rw [renderedFields, ← TraceParentFields.hexValue_ne_zero_iff (isField_hexWord 16 _),
      hexValue_hexWord_toNat]
    exact fun h => hspan (UInt64.toNat_inj.mp h)
  version := show ['0', '0'] ≠ ['f', 'f'] by decide
  tail := fun _ => .inl rfl
  flags := fun _ => by
    rw [renderedFields, hexValue_flagDigits]
    exact (Bool.toNat_le sampled).trans (by decide)

theorem toTraceParent_renderedFields (traceId : TraceId) (spanId : UInt64) (sampled : Bool) :
    (renderedFields traceId spanId sampled).toTraceParent =
      ⟨"00", .wide traceId.toNat, spanId, sampled⟩ := by
  have hversion : String.ofList ['0', '0'] = "00" := by decide
  have hsampled : (sampled.toNat % 2 == 1) = sampled := by cases sampled <;> decide
  rw [TraceParentFields.toTraceParent, TraceParent.mk.injEq]
  refine ⟨hversion, ?_, ?_, ?_⟩
  · exact congrArg TraceId.wide (hexValue_traceId traceId)
  · rw [renderedFields, hexValue_hexWord_toNat, UInt64.ofNat_toNat]
  · rw [renderedFields, hexValue_flagDigits, hsampled]

theorem parse_render {traceId : TraceId} {spanId : UInt64} (htrace : traceId.isZero = false)
    (hspan : spanId ≠ 0) (sampled : Bool) :
    TraceParent.parse (TraceParent.render traceId spanId sampled) =
      .ok ⟨"00", .wide traceId.toNat, spanId, sampled⟩ := by
  rw [parse_eq_ok_iff]
  exact ⟨_, spells_render traceId spanId sampled, isAccepted_renderedFields htrace hspan sampled,
    toTraceParent_renderedFields traceId spanId sampled⟩

theorem isBlank_eq_false_of_mem_render {traceId : TraceId} {spanId : UInt64} {sampled : Bool}
    {c : Char} (hc : c ∈ (TraceParent.render traceId spanId sampled).toList) :
    isBlank c = false := by
  have hhex : isLowerHex c = true ∨ c = '-' := by
    simp only [toList_render, List.mem_append, List.mem_cons (b := '-')] at hc
    rcases hc with hc | hc | hc | hc | hc | hc | hc
    · exact .inl (isField_zeros.2 c hc)
    · exact .inr hc
    · exact .inl (isLowerHex_of_mem_hexWord hc)
    · exact .inr hc
    · exact .inl (isLowerHex_of_mem_hexWord hc)
    · exact .inr hc
    · exact .inl ((isField_flagDigits sampled).2 c hc)
  rcases hhex with hhex | rfl
  · exact isBlank_eq_false_of_isLowerHex hhex
  · decide

theorem trim_render (traceId : TraceId) (spanId : UInt64) (sampled : Bool) :
    trim (TraceParent.render traceId spanId sampled) =
      TraceParent.render traceId spanId sampled := by
  have hne : (TraceParent.render traceId spanId sampled).toList ≠ [] := by
    rw [toList_render]
    exact List.cons_ne_nil _ _
  exact trim_eq_self (startsSolid_of_all hne fun _ => isBlank_eq_false_of_mem_render)
    (endsSolid_of_all hne fun _ => isBlank_eq_false_of_mem_render)

end TraceHeaders.Format.TraceContext
