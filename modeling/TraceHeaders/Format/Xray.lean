import TraceHeaders.Codec
import TraceHeaders.SideData

/-!
The X-Ray header.  Identity, sampling decision, origin and baggage are members of one header, which
takes baggage as long as it stays within a limit.
-/

namespace TraceHeaders.Format.Xray

open Text

def header : String := "X-Amzn-Trace-Id"

def originKey : String := "_dd.origin"

/-- The first group of the root, and the padding of its second group: no time is set, and only the
lower half of the trace identifier is. -/
def rootStart : String := "1-00000000-00000000"

/-- Baggage is taken as long as the header has at most this many bytes. -/
def headerLimit : Nat := 256

def keys : List String := [header]

def unreadable (field : Field) : CodecError := .unreadable .xray (.undecodable field)

/-- Reads the root: a version, a time of eight bytes and an identifier of twenty-four digits, of which
the last sixteen count.  A cut inside a character would be a crash. -/
def readRoot (root : String) : Reading TraceId := do
  let ids ← Reading.orFail (unreadable .traceId) (after? "1-" root)
  let (time, unique) ← Reading.orFail (unreadable .traceId) (cut? '-' ids)
  if time.utf8ByteSize ≠ 8 ∨ unique.utf8ByteSize ≠ 24 ∨ unique.toList.any (!isAscii ·) then
    Reading.fail (unreadable .traceId)
  match dropBytes? 8 unique with
  | none => throw .crashed
  | some digits =>
      .bits64 <$> Reading.orFail (unreadable .traceId) (readUInt64 16 digits).toOption

/-- Reads a sampling decision.  Any other text defers it. -/
def parseSampled? (value : String) : Option SamplingPriority :=
  if value = "1" then some .autoKeep else if value = "0" then some .autoReject else none

/-- What the members read so far hold. -/
structure Members where
  traceId : Option TraceId := none
  spanId : UInt64 := 0
  priority : Option SamplingPriority := none
  origin : Option String := none
  baggage : TextMap := ∅

/-- Takes in one member.  The keys of the format are found in any case; all other keys but the origin
are baggage. -/
def readMember (found : Members) (member : String × String) : Reading Members := do
  let (key, value) := (trim member.1, trim member.2)
  if sameIgnoringCase key "Root" then
    return { found with traceId := some (← readRoot value) }
  else if sameIgnoringCase key "Parent" then
    let spanId ← Reading.orFail (unreadable .parentId) (readUInt64 16 value).toOption
    return { found with spanId }
  else if sameIgnoringCase key "Sampled" then
    return { found with priority := parseSampled? value }
  else if sameIgnoringCase key "Self" then
    return found
  else if key = originKey then
    return { found with origin := some value }
  else if key.isEmpty then
    return found
  else
    let item ← HeaderValue.decode value
    return { found with baggage := found.baggage.insert key item }

/-- Reads the header.  Its baggage overrules that of mapped headers. -/
def read (settings : Settings) (headers : Headers) : Reading Extracted := do
  let side ← SideData.collect settings none headers
  match headers.get? header with
  | none => return side.withoutIdentity none .xray
  | some value =>
      let found ← ((pieces ';' value).filterMap (cut? '=')).foldlM readMember
        { baggage := side.baggage }
      let side := { side with baggage := found.baggage }
      match found.traceId.filter (!·.isZero) with
      | none => return side.withoutIdentity found.origin .xray
      | some traceId =>
          return side.complete
            { traceId
              spanId := found.spanId
              priority := found.priority
              origin := found.origin
              style := some .xray
              isRemote := true }

/-- The members of the identity and the origin, however long they are. -/
def identityText (context : SpanContext) : String :=
  "Root=" ++ rootStart ++ hexPadded 16 context.traceId.lower.toNat ++
    ";Parent=" ++ hexPadded 16 context.spanId.toNat ++
    (context.priority.elim "" fun priority => if priority.isKeep then ";Sampled=1" else ";Sampled=0") ++
    context.origin.elim "" fun origin => ";" ++ originKey ++ "=" ++ origin

/-- Adds a baggage item to the headers of their own when one is configured, and else to the members
if it still fits. -/
def addBaggage (settings : Settings) (written : List Header × String) (item : String × String) :
    Logged (List Header × String) := do
  let (headers, text) := written
  match settings.baggageHeader? item.1 with
  | some mapped => return (headers ++ [⟨mapped, encodeForm item.2⟩], text)
  | none =>
      let member := ";" ++ item.1 ++ "=" ++ encodeForm item.2
      if headerLimit < text.utf8ByteSize + member.utf8ByteSize then
        Logged.debug s!"Propagator (xray): dropping baggage {item.1}, header is full"
        return (headers, text)
      else
        return (headers, text ++ member)

/-- Writes the header, unless there is no trace. -/
def write (settings : Settings) (context : SpanContext) : Logged (List Header) := do
  if context.traceId.isZero then
    Logged.debug "Propagator (xray): skipping inject, no trace id"
    return []
  let (headers, text) ←
    context.baggage.toList.foldlM (addBaggage settings) ([], identityText context)
  return headers ++ [⟨header, text⟩]

end TraceHeaders.Format.Xray
