import TraceHeaders.Context

namespace TraceHeaders

namespace TraceId

theorem wide_toNat (id : TraceId) : wide id.toNat = bits128 id.upper id.lower := by
  have hupper := id.upper.toNat_lt
  have hlower := id.lower.toNat_lt
  rw [wide, toNat, bits128.injEq]
  constructor
  · have hdiv : (id.upper.toNat * UInt64.size + id.lower.toNat) / UInt64.size =
        id.upper.toNat := by
      simp only [UInt64.size]
      omega
    rw [hdiv, UInt64.ofNat_toNat]
  · rw [← UInt64.toNat_inj, UInt64.toNat_ofNat']
    simp only [UInt64.size]
    omega

/-- An identifier in full, or its lower half alone. -/
def IsViewOf (view id : TraceId) : Prop :=
  view = bits64 id.lower ∨ view = bits128 id.upper id.lower

theorem IsViewOf.lower_eq {view id : TraceId} (h : view.IsViewOf id) : view.lower = id.lower := by
  rcases h with rfl | rfl <;> rfl

theorem IsViewOf.sameTrace {view other id : TraceId} (h : view.IsViewOf id)
    (hother : other.IsViewOf id) : view.sameTrace other = true := by
  rcases h with rfl | rfl <;> rcases hother with rfl | rfl <;> simp [TraceId.sameTrace, lower]

theorem isViewOf_self (id : TraceId) : id.IsViewOf id := by
  cases id with
  | bits64 lower => exact .inl rfl
  | bits128 upper lower => exact .inr rfl

/-- The identifier in as few bits as hold it. -/
def narrow (id : TraceId) : TraceId :=
  if id.upper = 0 then bits64 id.lower else bits128 id.upper id.lower

theorem isViewOf_narrow (id : TraceId) : id.narrow.IsViewOf id := by
  rw [narrow]
  split
  · exact .inl rfl
  · exact .inr rfl

@[simp] theorem upper_narrow (id : TraceId) : id.narrow.upper = id.upper := by
  rw [narrow]
  split
  · rename_i hupper
    exact hupper.symm
  · rfl

@[simp] theorem toNat_narrow (id : TraceId) : id.narrow.toNat = id.toNat := by
  rw [toNat, upper_narrow, id.isViewOf_narrow.lower_eq, toNat]

theorem toNat_lt_size_iff {id : TraceId} : id.toNat < UInt64.size ↔ id.upper = 0 := by
  have hlower := id.lower.toNat_lt
  rw [← UInt64.toNat_inj]
  simp only [toNat, UInt64.size, UInt64.toNat_zero]
  omega

theorem exists_narrow_eq_bits128 {id : TraceId} :
    (∃ upper lower, id.narrow = bits128 upper lower) ↔ id.upper ≠ 0 := by
  rw [narrow]
  constructor
  · rintro ⟨upper, lower, hid⟩ hupper
    rw [if_pos hupper] at hid
    exact TraceId.noConfusion hid
  · intro hupper
    exact ⟨id.upper, id.lower, if_neg hupper⟩

theorem isZero_of_lower {id : TraceId} (h : id.lower ≠ 0) : id.isZero = false := by
  simp [isZero, h]

end TraceId

namespace SpanContext

/-- The same span of the same trace, with the same decision where one was taken, and nothing else. -/
structure Restates (found context : SpanContext) : Prop where
  traceId : found.traceId.IsViewOf context.traceId
  spanId : found.spanId = context.spanId
  decision : ∀ priority, context.priority = some priority →
    ∃ other, found.priority = some other ∧ other.isKeep = priority.isKeep
  links : found.links = []

theorem Restates.of_priority_eq {found context : SpanContext}
    (htrace : found.traceId.IsViewOf context.traceId) (hspan : found.spanId = context.spanId)
    (hpriority : found.priority = context.priority) (hlinks : found.links = []) :
    found.Restates context := by
  refine ⟨htrace, hspan, ?_, hlinks⟩
  intro priority hdecided
  exact ⟨priority, hpriority.trans hdecided, rfl⟩

end SpanContext

end TraceHeaders
