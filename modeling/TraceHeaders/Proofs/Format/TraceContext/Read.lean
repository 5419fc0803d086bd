import TraceHeaders.Format.TraceContext
import TraceHeaders.Proofs.Codec
import TraceHeaders.Proofs.Format.Portable
import TraceHeaders.Proofs.Format.TraceContext.TraceParent
import TraceHeaders.Proofs.Format.TraceContext.TraceState

namespace TraceHeaders.Format.TraceContext

open Text

theorem outcome_readParent {header : String} {parent : TraceParent}
    (h : TraceParent.parse header = .ok parent) : (readParent header).outcome = .ok parent := by
  simp only [readParent, h]
  split <;> rfl

theorem identified_of_readParent {header : String} {parent : TraceParent}
    (h : (readParent header).outcome = .ok parent) :
    parent.traceId.isZero = false ∧ parent.spanId ≠ 0 := by
  cases hparse : TraceParent.parse header with
  | error cause =>
      simp only [readParent, hparse] at h
      cases h
  | ok found =>
      rw [outcome_readParent hparse] at h
      cases h
      exact identified_of_parse hparse

theorem value_readState (headers : Headers) :
    (readState headers).value =
      (headers.get? tracestateHeader).bind fun text => (TraceState.parse? text).map (text, ·) := by
  rw [readState]
  cases headers.get? tracestateHeader with
  | none => rfl
  | some text =>
      cases hstate : TraceState.parse? text with
      | none => simp [hstate]
      | some state => simp [hstate]

theorem outcome_read {settings : Settings} {headers : Headers} {header : String}
    {parent : TraceParent} (hget : headers.get? traceparentHeader = some header)
    (hparse : TraceParent.parse (trim header) = .ok parent) :
    (read settings headers).outcome =
      .ok ((SideData.collect settings (some openTracingStart) headers).value.complete
        { stateContext parent.sampled (readState headers).value with
          traceId := parent.traceId
          spanId := parent.spanId
          style := some .traceContext
          isRemote := true }) := by
  simp only [read, hget, Reading.outcome_bind, Reading.outcome_lift, outcome_readParent hparse]
  rfl

theorem outcome_read_rejected {settings : Settings} {headers : Headers} {header : String}
    {cause : Cause} (hget : headers.get? traceparentHeader = some header)
    (hparse : TraceParent.parse (trim header) = .error cause) :
    (read settings headers).outcome = .error (.failed (.rejected .traceContext cause)) := by
  rw [read, Reading.outcome_liftM_bind, hget]
  simp only [readParent, hparse]
  rfl

theorem exists_of_outcome_read {settings : Settings} {headers : Headers} {context : SpanContext}
    (h : (read settings headers).outcome = .ok (.full context)) :
    ∃ header parent, headers.get? traceparentHeader = some header ∧
      TraceParent.parse (trim header) = .ok parent ∧
      (SideData.collect settings (some openTracingStart) headers).value.completed
        { stateContext parent.sampled (readState headers).value with
          traceId := parent.traceId
          spanId := parent.spanId
          style := some .traceContext
          isRemote := true } = context := by
  cases hget : headers.get? traceparentHeader with
  | none =>
      rw [read, Reading.outcome_liftM_bind, hget] at h
      exact absurd (Except.ok.inj h) (SideData.withoutIdentity_ne_full _ _ _ context)
  | some header =>
      cases hparse : TraceParent.parse (trim header) with
      | error cause =>
          rw [outcome_read_rejected hget hparse] at h
          cases h
      | ok parent =>
          rw [outcome_read hget hparse] at h
          exact ⟨header, parent, rfl, hparse, Extracted.full.inj (Except.ok.inj h)⟩

def Identified (context : SpanContext) : Prop :=
  context.traceId.isZero = false ∧ context.spanId ≠ 0

def ownHeaders (context : SpanContext) : List Header :=
  [⟨traceparentHeader, TraceParent.render context.traceId context.spanId
      (context.priority.any (·.isKeep))⟩,
    ⟨tracestateHeader, renderTraceState context⟩]

theorem name_of_mem_ownHeaders {context : SpanContext} :
    ∀ header ∈ ownHeaders context, header.name ∈ keys := by
  intro header hheader
  exact List.mem_map_of_mem (f := Header.name) hheader

theorem value_write {context : SpanContext} (h : Identified context) (settings : Settings) :
    (write settings context).value = ownHeaders context ++
      writeBaggage settings openTracingStart encodePercent context.baggage := by
  have hskip : ¬ (context.traceId.isZero || context.spanId == 0) = true := by
    simp [h.1, h.2]
  rw [write, if_neg hskip]
  rfl

theorem get?_traceparent_write {context : SpanContext} (h : Identified context)
    (settings : Settings) :
    Headers.get? ⟨(write settings context).value⟩ traceparentHeader =
      some (TraceParent.render context.traceId context.spanId
        (context.priority.any (·.isKeep))) := by
  have hname : Text.sameIgnoringCase traceparentHeader traceparentHeader = true := by decide
  rw [value_write h]
  simp [ownHeaders, Headers.get?, Header.isNamed, hname]

theorem get?_tracestate_write {context : SpanContext} (h : Identified context)
    (settings : Settings) :
    Headers.get? ⟨(write settings context).value⟩ tracestateHeader =
      some (renderTraceState context) := by
  have hother : Text.sameIgnoringCase traceparentHeader tracestateHeader = false := by decide
  have hname : Text.sameIgnoringCase tracestateHeader tracestateHeader = true := by decide
  rw [value_write h]
  simp [ownHeaders, Headers.get?, Header.isNamed, hother, hname]

theorem outcome_read_written (settings : Settings) {headers : Headers} {context : SpanContext}
    (h : Identified context)
    (hget : headers.get? traceparentHeader = some (TraceParent.render context.traceId
      context.spanId (context.priority.any (·.isKeep)))) :
    (read settings headers).outcome =
      .ok ((SideData.collect settings (some openTracingStart) headers).value.complete
        { stateContext (context.priority.any (·.isKeep)) (readState headers).value with
          traceId := .bits128 context.traceId.upper context.traceId.lower
          spanId := context.spanId
          style := some .traceContext
          isRemote := true }) := by
  have hparse : TraceParent.parse (trim (TraceParent.render context.traceId context.spanId
      (context.priority.any (·.isKeep)))) = .ok ⟨"00", .wide context.traceId.toNat,
        context.spanId, context.priority.any (·.isKeep)⟩ := by
    rw [trim_render]
    exact parse_render h.1 h.2 _
  rw [outcome_read hget hparse, TraceId.wide_toNat]

/-- Whatever the trace state says, the sampled flag decides whether the trace is kept. -/
theorem isKeep_resolvePriority (sampled : Bool) (stated : Option SamplingPriority)
    (tags : PropagationTags) : (resolvePriority sampled stated tags).1.isKeep = sampled := by
  rw [resolvePriority]
  split
  · rename_i priority hstated
    have hagrees := (Option.filter_eq_some_iff.mp hstated).2
    exact beq_iff_eq.mp hagrees
  · exact SamplingPriority.isKeep_ofKeep sampled

theorem resolvePriority_isKeep (priority : SamplingPriority) (tags : PropagationTags) :
    resolvePriority priority.isKeep (some priority) tags = (priority, tags) := by
  rw [resolvePriority, Option.filter_some, if_pos (beq_self_eq_true _)]

theorem stateContext_priority (sampled : Bool) (header : Option (String × TraceState)) :
    ∃ priority, (stateContext sampled header).priority = some priority ∧
      priority.isKeep = sampled := by
  cases header with
  | none => exact ⟨.ofKeep sampled, rfl, SamplingPriority.isKeep_ofKeep sampled⟩
  | some state => exact ⟨_, rfl, isKeep_resolvePriority sampled _ _⟩

theorem stateContext_links (sampled : Bool) (header : Option (String × TraceState)) :
    (stateContext sampled header).links = [] := by
  cases header <;> rfl

theorem tracestate_resolvePriority (sampled : Bool) (stated : Option SamplingPriority)
    (tags : PropagationTags) :
    (resolvePriority sampled stated tags).2.tracestate = tags.tracestate := by
  rw [resolvePriority]
  split
  · rfl
  · dsimp only
    split
    · exact PropagationTags.tracestate_insert tags _ _
    · rfl

theorem tracestate_stateContext (sampled : Bool) (header : Option (String × TraceState)) :
    (stateContext sampled header).propagationTags.tracestate = header.map Prod.fst := by
  cases header with
  | none => rfl
  | some header => exact tracestate_resolvePriority sampled _ _

theorem tracestate_of_read {settings : Settings} {headers : Headers} {context : SpanContext}
    (h : (read settings headers).outcome = .ok (.full context)) :
    context.propagationTags.tracestate = (readState headers).value.map Prod.fst := by
  obtain ⟨_, parent, _, _, rfl⟩ := exists_of_outcome_read h
  exact tracestate_stateContext parent.sampled _

theorem identified_of_isPortable {context : SpanContext} (h : context.IsPortable) :
    Identified context :=
  ⟨TraceId.isZero_of_lower h.trace, h.span⟩

theorem read_restates (settings : Settings) {context : SpanContext} (h : context.IsPortable)
    {headers : Headers} (hheaders : ∀ key ∈ keys, headers.get? key =
      Headers.get? ⟨ownHeaders context⟩ key) :
    ∃ found, (read settings headers).outcome = .ok (.full found) ∧ found.Restates context := by
  have hget : headers.get? traceparentHeader = some (TraceParent.render context.traceId
      context.spanId (context.priority.any (·.isKeep))) := by
    rw [hheaders _ (by decide), ownHeaders, Headers.get?_cons, Headers.isNamed_mk_self, if_pos rfl]
  rw [outcome_read_written settings (identified_of_isPortable h) hget]
  apply SideData.complete_restates
  refine ⟨.inr rfl, rfl, ?_, stateContext_links _ _⟩
  intro priority hdecided
  obtain ⟨other, hother, hkeep⟩ :=
    stateContext_priority (context.priority.any (·.isKeep)) (readState headers).value
  refine ⟨other, hother, ?_⟩
  rw [hkeep, hdecided, Option.any_some]

end TraceHeaders.Format.TraceContext
