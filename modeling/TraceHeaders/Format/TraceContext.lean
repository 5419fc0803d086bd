import TraceHeaders.Codec
import TraceHeaders.Format.Baggage
import TraceHeaders.Format.TraceContext.TraceParent
import TraceHeaders.Format.TraceContext.TraceState
import TraceHeaders.SideData

/-!
The W3C headers.  The traceparent header identifies the span and says whether the trace is sampled; the
tracestate header refines it, but only where both agree.
-/

namespace TraceHeaders.Format.TraceContext

open Text

def traceparentHeader : String := "traceparent"

def tracestateHeader : String := "tracestate"

/-- The span tag with the last Datadog span that the trace passed through. -/
def parentIdTag : String := "_dd.parent_id"

def keys : List String := [traceparentHeader, tracestateHeader]

/-- The sampling priority and the propagated tags.  A priority in the trace state counts when it agrees
with the sampled flag on keeping the trace; otherwise the flag decides, and the tag that names who
decided follows it. -/
def resolvePriority (sampled : Bool) (stated : Option SamplingPriority) (tags : PropagationTags) :
    SamplingPriority × PropagationTags :=
  match stated.filter (·.isKeep == sampled) with
  | some priority => (priority, tags)
  | none =>
      (.ofKeep sampled,
        if sampled then tags.insert decisionMakerTag SamplingMechanism.default.text
        else tags.erase decisionMakerTag)

/-- The context that the sampled flag and the trace state make up, still without its identity. -/
def stateContext (sampled : Bool) (header : Option (String × TraceState)) : SpanContext :=
  match header with
  | none => { priority := some (.ofKeep sampled) }
  | some (text, state) =>
      let tags := PropagationTags.setTracestate (.ofList state.tags) (some text)
      let (priority, tags) := resolvePriority sampled state.priority tags
      { priority := some priority
        mechanism := (tags.get? decisionMakerTag).bind SamplingMechanism.parse?
        origin := state.origin
        tags := state.parentId.elim ∅ fun parentId => TextMap.ofList [(parentIdTag, parentId)]
        propagationTags := tags }

/-- Reads the trace state.  One that cannot be read is left out of account. -/
def readState (headers : Headers) : Logged (Option (String × TraceState)) :=
  match headers.get? tracestateHeader with
  | none => do
      Logged.debug "Propagator (tracecontext): no tracestate header found"
      return none
  | some text =>
      match TraceState.parse? text with
      | some state => do
          Logged.debug "Propagator (tracecontext): tracestate header parsed successfully"
          return some (text, state)
      | none => do
          Logged.debug s!"Received invalid tracestate header {text}"
          Logged.debug "Propagator (tracecontext): unable to parse tracestate header"
          return none

/-- Reads the parent.  A version that is not known is read as far as it is known. -/
def readParent (header : String) : Reading TraceParent :=
  match TraceParent.parse header with
  | .error cause => Reading.fail (.rejected .traceContext cause)
  | .ok parent => do
      if parent.version != "00" then
        Logged.warn s!"Propagator (tracecontext): Unsupported traceparent version {parent.version}, still attempting to parse"
      return parent

/-- Reads the headers.  Without a traceparent header there is no identity, and a malformed one is an
error. -/
def read (settings : Settings) (headers : Headers) : Reading Extracted := do
  let side ← SideData.collect settings (some openTracingStart) headers
  match headers.get? traceparentHeader with
  | none => return side.withoutIdentity none .traceContext
  | some header =>
      let parent ← readParent (trim header)
      Logged.debug "Propagator (tracecontext): traceparent extracted successfully"
      let state ← readState headers
      return side.complete
        { stateContext parent.sampled state with
          traceId := parent.traceId
          spanId := parent.spanId
          style := some .traceContext
          isRemote := true }

/-- Writes the headers.  The format cannot leave an identifier out, so a context that lacks the trace
or the span is not written. -/
def write (settings : Settings) (context : SpanContext) : Logged (List Header) := do
  if context.traceId.isZero || context.spanId == 0 then
    Logged.debug "Propagator (tracecontext): skipping inject"
    return []
  let sampled := context.priority.any (·.isKeep)
  let traceparent := TraceParent.render context.traceId context.spanId sampled
  Logged.debug s!"Propagator (tracecontext): injecting traceparent: {traceparent}"
  let tracestate := renderTraceState context
  Logged.debug s!"Propagator (tracecontext): injecting tracestate: {tracestate}"
  return [⟨traceparentHeader, traceparent⟩, ⟨tracestateHeader, tracestate⟩] ++
    writeBaggage settings openTracingStart encodePercent context.baggage

end TraceHeaders.Format.TraceContext
