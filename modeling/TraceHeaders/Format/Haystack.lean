import TraceHeaders.Codec
import TraceHeaders.Format.Baggage
import TraceHeaders.SideData

/-!
The Haystack headers.  Identifiers are written twice, as numbers and as UUIDs whose first half is a
signature, and read from the UUIDs.  UUIDs of other programs hold 128 bits.
-/

namespace TraceHeaders.Format.Haystack

open Text

def traceIdHeader : String := "Trace-ID"

def spanIdHeader : String := "Span-ID"

def datadogTraceIdHeader : String := "Baggage-Datadog-Trace-Id"

def datadogSpanIdHeader : String := "Baggage-Datadog-Span-Id"

def priorityHeader : String := "Baggage-Datadog-Sampling-Priority"

/-- The start of baggage headers.  The Datadog identity has headers among them. -/
def baggageStart : String := "Baggage-"

/-- Baggage keys that belong to the identity and are no items of the user. -/
def reservedKeys : List String :=
  ["datadog-trace-id", "datadog-span-id", "datadog-sampling-priority"]

/-- The first three groups of the UUIDs that are written. -/
def signature : String := "44617461-646f-6721"

def keys : List String :=
  [traceIdHeader, spanIdHeader, datadogTraceIdHeader, datadogSpanIdHeader, priorityHeader]

/-- The UUID of an identifier.  Its digits are cut after four bytes, which takes a position of theirs: a
cut inside a character would be a crash. -/
def uuid (id : UInt64) : String :=
  let digits := hexPadded 16 id.toNat
  let place := digits.pos ⟨4⟩ (isValid_hexPadded (by decide) id.toNat)
  signature ++ "-" ++ (digits.sliceTo place).copy ++ "-" ++ (digits.sliceFrom place).copy

/-- The groups of a text that is shaped like a UUID, joined.  Their sizes are all that counts. -/
def uuidDigits? (value : String) : Option String :=
  let groups := pieces '-' value
  if groups.map String.utf8ByteSize = [8, 4, 4, 4, 12] then some (String.join groups) else none

/-- Reads an identifier that is no UUID. -/
def parseDecimal? (value : String) : Option UInt64 := (readUInt64 10 value).toOption

/-- Reads the second half of the digits of a UUID.  A cut inside a character would be a crash. -/
def readSecondHalf (e : CodecError) (digits : String) : Reading UInt64 :=
  match dropBytes? 16 digits with
  | none => throw .crashed
  | some half => Reading.orFail e (readUInt64 16 half).toOption

/-- Reads a trace identifier.  A UUID with the signature holds 64 bits, and any other one 128. -/
def readTraceId (value : String) : Reading TraceId :=
  let e : CodecError := .unreadable .haystack (.undecodable .traceId)
  let value := trim value
  match uuidDigits? value with
  | none => .bits64 <$> Reading.orFail e (parseDecimal? value)
  | some digits =>
      if begins signature value then .bits64 <$> readSecondHalf e digits
      else
        .wide <$> Reading.orFail e
          (readNat 16 (UInt64.size * UInt64.size - 1) digits.toList).toOption

/-- Reads a span identifier.  The first half of a UUID does not matter. -/
def readSpanId (value : String) : Reading UInt64 :=
  let e : CodecError := .unreadable .haystack (.undecodable .spanId)
  let value := trim value
  match uuidDigits? value with
  | none => Reading.orFail e (parseDecimal? value)
  | some digits => readSecondHalf e digits

def readPriority (headers : Headers) : Reading (Option SamplingPriority) :=
  match headers.get? priorityHeader with
  | some value =>
      some <$> Reading.orFail (.unreadable .haystack (.undecodable .samplingPriority))
        (SamplingPriority.parse? value)
  | none => pure none

/-- Picks up what stands beside the identity, which is no baggage. -/
def readSideData (settings : Settings) (headers : Headers) : Logged SideData := do
  let side ← SideData.collect settings (some (lowerAscii baggageStart)) headers
  return { side with baggage := reservedKeys.foldl TextMap.erase side.baggage }

/-- Reads the headers.  The identifiers in decimal are written for other programs and are not read.
-/
def read (settings : Settings) (headers : Headers) : Reading Extracted := do
  let side ← readSideData settings headers
  let traceId ←
    match headers.get? traceIdHeader with
    | some value => readTraceId value
    | none => pure default
  if traceId.isZero then return side.withoutIdentity none .haystack
  let spanId ←
    match headers.get? spanIdHeader with
    | some value => readSpanId value
    | none => pure 0
  let priority ← readPriority headers
  return side.complete
    { traceId, spanId, priority, style := some .haystack, isRemote := true }

/-- The headers of the identity, with both forms of the identifiers. -/
def identityHeaders (context : SpanContext) : List Header :=
  [⟨traceIdHeader, uuid context.traceId.lower⟩,
    ⟨datadogTraceIdHeader, decimal context.traceId.lower.toNat⟩,
    ⟨spanIdHeader, uuid context.spanId⟩,
    ⟨datadogSpanIdHeader, decimal context.spanId.toNat⟩] ++
  (context.priority.map fun priority => ⟨priorityHeader, priority.text⟩).toList

/-- Writes the identity and then the baggage, whatever its keys are. -/
def write (settings : Settings) (context : SpanContext) : Logged (List Header) :=
  pure (identityHeaders context ++ writeBaggage settings baggageStart encodeForm context.baggage)

end TraceHeaders.Format.Haystack
