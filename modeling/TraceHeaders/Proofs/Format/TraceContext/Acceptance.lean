import TraceHeaders.Proofs.Format.TraceContext.Read

namespace TraceHeaders.Format.TraceContext

open Text

/-- The identifiers of a span context are the numbers that the fields spell, that of the trace in 128
bits. -/
structure TraceParentFields.Identifies (fields : TraceParentFields) (context : SpanContext) :
    Prop where
  trace : ∃ upper lower, context.traceId = .bits128 upper lower ∧
    upper.toNat * 2 ^ 64 + lower.toNat = hexValue fields.traceId
  span : context.spanId.toNat = hexValue fields.spanId

theorem identifies_of_outcome_read {settings : Settings} {headers : Headers} {header : String}
    (hget : headers.get? traceparentHeader = some header) {fields : TraceParentFields}
    (hspells : fields.Spells (trim header).toList) {context : SpanContext}
    (h : (read settings headers).outcome = .ok (.full context)) : fields.Identifies context := by
  obtain ⟨_, parent, hheader, hparse, rfl⟩ := exists_of_outcome_read h
  cases hget.symm.trans hheader
  obtain ⟨found, hfound, _, rfl⟩ := parse_eq_ok_iff.mp hparse
  -- A text is spelled by one choice of fields only.
  have hsame : some found = some fields :=
    (TraceParentFields.parse?_eq_some_iff.mpr hfound).symm.trans
      (TraceParentFields.parse?_eq_some_iff.mpr hspells)
  cases hsame
  obtain ⟨htrace, hspan⟩ := TraceParentFields.toNat_toTraceParent hspells
  exact ⟨⟨_, _, rfl, htrace⟩, hspan⟩

/-- The header is accepted just when accepted fields spell its trimmed text, which then identify the
span.  Otherwise there is an error of this codec, whatever else the headers hold. -/
theorem read_accepts_iff (settings : Settings) {headers : Headers} {header : String}
    (hget : headers.get? traceparentHeader = some header) :
    ((∃ context, (read settings headers).outcome = .ok (.full context)) ↔
      ∃ fields : TraceParentFields, fields.Spells (trim header).toList ∧ fields.IsAccepted) ∧
    (∀ fields : TraceParentFields, fields.Spells (trim header).toList → ∀ context,
      (read settings headers).outcome = .ok (.full context) → fields.Identifies context) ∧
    ((¬ ∃ fields : TraceParentFields, fields.Spells (trim header).toList ∧ fields.IsAccepted) →
      ∃ cause, (read settings headers).outcome =
        .error (.failed ⟨.extract, "tracecontext", cause, .error⟩)) := by
  have hparse : (∃ context, (read settings headers).outcome = .ok (.full context)) ↔
      ∃ parent, TraceParent.parse (trim header) = .ok parent := by
    constructor
    · rintro ⟨context, h⟩
      obtain ⟨_, parent, hheader, hparse, _⟩ := exists_of_outcome_read h
      cases hget.symm.trans hheader
      exact ⟨parent, hparse⟩
    · rintro ⟨parent, hparse⟩
      exact ⟨_, outcome_read hget hparse⟩
  have haccepted : (∃ parent, TraceParent.parse (trim header) = .ok parent) ↔
      ∃ fields : TraceParentFields, fields.Spells (trim header).toList ∧ fields.IsAccepted := by
    constructor
    · rintro ⟨parent, hparse⟩
      obtain ⟨fields, hspells, haccepted, _⟩ := parse_eq_ok_iff.mp hparse
      exact ⟨fields, hspells, haccepted⟩
    · rintro ⟨fields, hspells, haccepted⟩
      exact ⟨_, parse_eq_ok_iff.mpr ⟨fields, hspells, haccepted, rfl⟩⟩
  refine ⟨hparse.trans haccepted, fun fields hspells context => identifies_of_outcome_read hget hspells,
    fun hnone => ?_⟩
  rw [← haccepted] at hnone
  cases hcause : TraceParent.parse (trim header) with
  | error cause => exact ⟨cause, outcome_read_rejected hget hcause⟩
  | ok parent => exact absurd ⟨parent, hcause⟩ hnone

/-- A later version, which has more to say after its flags. -/
def laterHeaders : Headers :=
  ⟨[⟨"Traceparent", " cc-00000000000000010000000000000002-0000000000000003-ff-more "⟩]⟩

def laterFields : TraceParentFields where
  version := ['c', 'c']
  traceId := hexWord 32 (2 ^ 64 + 2)
  spanId := hexWord 16 3
  flags := ['f', 'f']
  tail := "-more".toList

theorem read_accepts_later :
    laterHeaders.get? traceparentHeader =
      some " cc-00000000000000010000000000000002-0000000000000003-ff-more " ∧
    ∃ context, (read {} laterHeaders).outcome = .ok (.full context) ∧
      laterFields.Identifies context := by
  have hget : laterHeaders.get? traceparentHeader =
      some " cc-00000000000000010000000000000002-0000000000000003-ff-more " := by decide
  have hspells : laterFields.Spells (trim
      " cc-00000000000000010000000000000002-0000000000000003-ff-more ").toList :=
    TraceParentFields.parse?_eq_some_iff.mp rfl
  have haccepted : laterFields.IsAccepted :=
    (TraceParentFields.defect?_eq_none_iff hspells).mp (by decide)
  obtain ⟨hiff, hidentifies, _⟩ := read_accepts_iff {} hget
  obtain ⟨context, hcontext⟩ := hiff.mpr ⟨laterFields, hspells, haccepted⟩
  exact ⟨hget, context, hcontext, hidentifies laterFields hspells context hcontext⟩

end TraceHeaders.Format.TraceContext
