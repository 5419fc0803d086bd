import TraceHeaders.Codec
import TraceHeaders.SideData

/-!
The B3 headers, either one for each field or all fields in a single header.  Identifiers are
hexadecimal numbers of any width up to 128 bits, and the sampling decision is a flag or a request to
debug, which keeps the trace for a user.
-/

namespace TraceHeaders.Format.B3

open Text

/-- Hexadecimal text of a trace identifier, as wide as the identifier or as short as can be. -/
def traceIdText (padded : Bool) (id : TraceId) : String :=
  if padded then id.hex else hex id.toNat

/-- Hexadecimal text of a span identifier. -/
def spanIdText (padded : Bool) (id : UInt64) : String :=
  if padded then hexPadded 16 id.toNat else hex id.toNat

/-- The flag for a decision. -/
def sampledText (priority : SamplingPriority) : String := if priority.isKeep then "1" else "0"

/-- Reads a trace identifier.  Up to sixteen bytes of text hold 64 bits, up to thirty-two hold 128. -/
def parseTraceId? (value : String) : Option TraceId :=
  let value := trim value
  let size := value.utf8ByteSize
  if size = 0 then none
  else if size ≤ 16 then (readUInt64 16 value).toOption.map .bits64
  else if size ≤ 32 then (readNat 16 (UInt64.size * UInt64.size - 1) value.toList).toOption.map .wide
  else none

/-- Reads a span identifier, which has at most sixteen bytes of text. -/
def parseSpanId? (value : String) : Option UInt64 :=
  let value := trim value
  if value.utf8ByteSize = 0 ∨ 16 < value.utf8ByteSize then none
  else (readUInt64 16 value).toOption

def readTraceId (style : Style) (value : String) : Reading TraceId :=
  Reading.orFail (.unreadable style (.undecodable .traceId)) (parseTraceId? value)

def readSpanId (style : Style) (value : String) : Reading UInt64 :=
  Reading.orFail (.unreadable style (.undecodable .spanId)) (parseSpanId? value)

/-- Reads a sampling decision.  Anything else defers the decision. -/
def readSampled (value : String) : Logged (Option SamplingPriority) :=
  let value := trim value
  if value = "1" ∨ value = "true" then pure (some .autoKeep)
  else if value = "0" ∨ value = "false" then pure (some .autoReject)
  else do
    Logged.debug s!"Propagator (b3): ignoring sampling state {value}"
    pure none

/-- A context as either of the two styles finds it. -/
def context (style : Style) (traceId : TraceId) (spanId : UInt64)
    (priority : Option SamplingPriority) : SpanContext :=
  { traceId, spanId, priority, style := some style, isRemote := true }

namespace Multi

def traceIdHeader : String := "x-b3-traceid"

def spanIdHeader : String := "x-b3-spanid"

def sampledHeader : String := "x-b3-sampled"

def flagsHeader : String := "x-b3-flags"

def keys : List String := [traceIdHeader, spanIdHeader, sampledHeader, flagsHeader]

/-- Reads the sampling decision; a request to debug wins over the flag. -/
def readPriority (headers : Headers) : Logged (Option SamplingPriority) :=
  if (headers.get? flagsHeader).map trim = some "1" then pure (some .userKeep)
  else
    match headers.get? sampledHeader with
    | some value => readSampled value
    | none => pure none

/-- Reads the headers.  Without a trace identifier there is no identity, and a missing span
identifier is zero. -/
def read (settings : Settings) (headers : Headers) : Reading Extracted := do
  let side ← SideData.collect settings none headers
  let traceId ←
    match headers.get? traceIdHeader with
    | some value => readTraceId .b3Multi value
    | none => pure default
  if traceId.isZero then return side.withoutIdentity none .b3Multi
  let spanId ←
    match headers.get? spanIdHeader with
    | some value => readSpanId .b3Multi value
    | none => pure 0
  let priority ← readPriority headers
  return side.complete (context .b3Multi traceId spanId priority)

/-- The headers of a priority.  That of a user is a request to debug as well. -/
def priorityHeaders (priority : SamplingPriority) : List Header :=
  ⟨sampledHeader, sampledText priority⟩ ::
    if priority = .userKeep then [⟨flagsHeader, "1"⟩] else []

def write (settings : Settings) (context : SpanContext) : Logged (List Header) := do
  if context.traceId.isZero then
    Logged.debug "Propagator (b3multi): skipping inject, no trace id"
    return []
  return [⟨traceIdHeader, traceIdText settings.padsB3 context.traceId⟩,
      ⟨spanIdHeader, spanIdText settings.padsB3 context.spanId⟩] ++
    context.priority.elim [] priorityHeaders

end Multi

namespace Single

def header : String := "b3"

def keys : List String := [header]

/-- Reads the field with the decision, in which a request to debug is a letter. -/
def readPriority (field : Option String) : Logged (Option SamplingPriority) :=
  match field with
  | none => pure none
  | some "d" => pure (some .userKeep)
  | some value => readSampled value

/-- Reads the header.  A header of one field has no identifiers. -/
def read (settings : Settings) (headers : Headers) : Reading Extracted := do
  let side ← SideData.collect settings none headers
  match (headers.get? header).map trim with
  | none => return side.withoutIdentity none .b3Single
  | some value =>
      match pieces '-' value with
      | traceId :: spanId :: more =>
          if 2 < more.length then Reading.fail (.unreadable .b3Single .malformedB3)
          let traceId ← readTraceId .b3Single traceId
          if traceId.isZero then return side.withoutIdentity none .b3Single
          let spanId ← readSpanId .b3Single spanId
          let priority ← readPriority more.head?
          return side.complete (context .b3Single traceId spanId priority)
      | _ =>
          Logged.debug s!"Propagator (b3): header {value} only carries a sampling decision"
          return side.withoutIdentity none .b3Single

/-- The third field, which a deferred decision leaves out. -/
def priorityText (priority : SamplingPriority) : String :=
  if priority = .userKeep then "-d" else "-" ++ sampledText priority

def write (settings : Settings) (context : SpanContext) : Logged (List Header) := do
  if context.traceId.isZero then
    Logged.debug "Propagator (b3): skipping inject, no trace id"
    return []
  return [⟨header, traceIdText settings.padsB3 context.traceId ++ "-" ++
    spanIdText settings.padsB3 context.spanId ++ context.priority.elim "" priorityText⟩]

end Single

end TraceHeaders.Format.B3
