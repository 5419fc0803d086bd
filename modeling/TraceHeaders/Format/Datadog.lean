import TraceHeaders.Codec
import TraceHeaders.Format.Baggage
import TraceHeaders.SideData

/-!
The Datadog headers.  The lower half of the trace identifier has a header of its own, and the upper
half travels among the propagated tags, which share one comma separated header.
-/

namespace TraceHeaders.Format.Datadog

open Text

def traceIdHeader : String := "x-datadog-trace-id"

def parentIdHeader : String := "x-datadog-parent-id"

def priorityHeader : String := "x-datadog-sampling-priority"

def originHeader : String := "x-datadog-origin"

def tagsHeader : String := "x-datadog-tags"

/-- The span tag that says why propagated tags were dropped. -/
def errorTag : String := "_dd.propagation_error"

def keys : List String :=
  [traceIdHeader, parentIdHeader, priorityHeader, originHeader, tagsHeader]

/-- Why propagated tags were dropped, all of them or one. -/
inductive TagsDefect where
  | disabled
  | tooLong
  | undecodable
  | malformedUpperBits (value : String)
  deriving DecidableEq, Repr

def TagsDefect.text : TagsDefect → String
  | disabled => "disabled"
  | tooLong => "extract_max_size"
  | undecodable => "decoding_error"
  | malformedUpperBits value => "malformed_tid " ++ value

/-- Whether a text is an upper half of a trace identifier. -/
def isUpperBits (s : String) : Bool := s.toList.length == 16 && s.toList.all isLowerHex

/-- Whether a text names who decided: a minus sign and digits. -/
def isDecision (s : String) : Bool :=
  match s.toList with
  | '-' :: digits => !digits.isEmpty && digits.all Char.isDigit
  | _ => false

/-- Splits an entry at its first equals sign.  The entry itself is the error when it has none. -/
def splitEntry (entry : String) : Except String (String × String) :=
  match cut? '=' entry with
  | some pair => .ok pair
  | none => .error entry

/-- Takes a tag out when its value is not valid, and tells that value. -/
def dropUnless (valid : String → Bool) (key : String) (tags : PropagationTags) :
    PropagationTags × Option String :=
  match tags.get? key with
  | some value => if valid value then (tags, none) else (tags.erase key, some value)
  | none => (tags, none)

/-- Drops a malformed upper half of the trace identifier and a malformed sampling decision.  The
defect of the decision is the one that is reported when both are malformed. -/
def checkTags (tags : PropagationTags) : Logged (PropagationTags × Option TagsDefect) := do
  let (tags, upperBits?) := dropUnless isUpperBits upperBitsTag tags
  if let some upperBits := upperBits? then
    Logged.warn s!"Malformed Trace ID: {upperBits} Failed to decode trace ID from carrier."
  let (tags, decision?) := dropUnless isDecision decisionMakerTag tags
  if let some decision := decision? then
    Logged.warn ("Failed to decode `_dd.p.dm`: " ++ decision)
    pure (tags, some .undecodable)
  else
    pure (tags, upperBits?.map .malformedUpperBits)

/-- Reads propagated tags.  One malformed entry makes the whole list worthless, and entries outside of
the namespace are left out. -/
def readTags (header : Option String) (limit : Nat) :
    Logged (PropagationTags × Option TagsDefect) :=
  match header with
  | none => pure (∅, none)
  | some header =>
      if header.isEmpty then pure (∅, none)
      else if limit = 0 then pure (∅, some .disabled)
      else if limit < header.utf8ByteSize then do
        Logged.warn
          s!"Propagator (datadog): x-datadog-tags of {header.utf8ByteSize} bytes exceeds the {limit} bytes limit"
        pure (∅, some .tooLong)
      else
        match (pieces ',' header).mapM splitEntry with
        | .ok entries => checkTags (.ofList entries)
        | .error entry => do
            Logged.debug s!"Propagator (datadog): malformed x-datadog-tags entry {entry}"
            pure (∅, some .undecodable)

/-- Reads an identifier in decimal. -/
def readId (field : Field) (value : String) : Reading UInt64 :=
  Reading.orFail (.unreadable .datadog (.undecodable field)) (readUInt64 10 (trim value)).toOption

/-- Reads the lower half of the trace identifier.  It is zero when its header is missing. -/
def readTraceId (headers : Headers) : Reading UInt64 :=
  match headers.get? traceIdHeader with
  | some value => readId .traceId value
  | none => pure 0

/-- Reads the span identifier.  It is zero when its header is missing. -/
def readParentId (headers : Headers) : Reading UInt64 :=
  match headers.get? parentIdHeader with
  | some value => readId .parentId value
  | none => pure 0

def readPriority (headers : Headers) : Reading (Option SamplingPriority) :=
  match headers.get? priorityHeader with
  | some value =>
      some <$> Reading.orFail (.unreadable .datadog (.undecodable .samplingPriority))
        (SamplingPriority.parse? value)
  | none => pure none

/-- Reads the headers.  Without a lower half there is no identity.  Propagated tags that cannot be read are
left out, and the span is tagged with the reason. -/
def read (settings : Settings) (headers : Headers) : Reading Extracted := do
  let side ← SideData.collect settings (some openTracingStart) headers
  let origin := headers.get? originHeader
  let lower ← readTraceId headers
  if lower = 0 then return side.withoutIdentity origin .datadog
  let spanId ← readParentId headers
  let priority ← readPriority headers
  let (propagationTags, defect) ← readTags (headers.get? tagsHeader) settings.tagsLimit
  return side.complete
    { traceId := .withUpperHex lower propagationTags.upperBits?
      spanId
      priority
      mechanism := (propagationTags.get? decisionMakerTag).bind SamplingMechanism.parse?
      origin
      tags := defect.elim ∅ fun defect => TextMap.ofList [(errorTag, defect.text)]
      propagationTags
      style := some .datadog
      isRemote := true }

/-- The propagated tags as one text.  The upper half of the trace identifier comes last, in place of
a tag that may disagree with it. -/
def tagsText (context : SpanContext) : String :=
  let tags := context.propagationTags.tags.toList.filter (·.1 != upperBitsTag)
  let upperBits := context.traceId.upper?.map fun upper => (upperBitsTag, hexPadded 16 upper.toNat)
  ",".intercalate ((tags ++ upperBits.toList).map fun (key, value) => key ++ "=" ++ value)

/-- Writes the propagated tags, unless there are none, they are switched off or they are too long. -/
def writeTags (limit : Nat) (context : SpanContext) : Logged (List Header) := do
  if limit = 0 then
    Logged.debug "Propagator (datadog): x-datadog-tags injection is disabled"
    return []
  let text := tagsText context
  if text.isEmpty then return []
  if limit < text.utf8ByteSize then
    Logged.warn
      s!"Propagator (datadog): x-datadog-tags of {text.utf8ByteSize} bytes exceeds the {limit} bytes limit, inject_max_size"
    return []
  return [⟨tagsHeader, text⟩]

/-- The headers with a value of their own for the identity. -/
def identityHeaders (context : SpanContext) : List Header :=
  [⟨traceIdHeader, decimal context.traceId.lower.toNat⟩,
    ⟨parentIdHeader, decimal context.spanId.toNat⟩] ++
  (context.priority.map fun priority => ⟨priorityHeader, priority.text⟩).toList ++
  (context.origin.map fun origin => ⟨originHeader, origin⟩).toList

/-- Writes the identity, the propagated tags and the baggage. -/
def write (settings : Settings) (context : SpanContext) : Logged (List Header) := do
  let tags ← writeTags settings.tagsLimit context
  return identityHeaders context ++ tags ++
    writeBaggage settings openTracingStart encodeForm context.baggage

end TraceHeaders.Format.Datadog
