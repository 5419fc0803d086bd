import TraceHeaders.Context
import TraceHeaders.HeaderValue
import TraceHeaders.Headers
import TraceHeaders.Settings

namespace TraceHeaders

/-- Data that every codec picks up beside its own headers: configured span tags, baggage, and the
headers that tell where a request came from. -/
structure SideData where
  tags : TextMap := ∅
  baggage : TextMap := ∅
  clientHeaders : ClientHeaders := ∅
  deriving DecidableEq

namespace SideData

/-- The baggage key of a header with a lowercase name: the configured one, or else what follows the
start of the codec's baggage headers, unless that is empty. -/
def baggageKey? (settings : Settings) (start : Option String) (name : String) : Option String :=
  match settings.baggageKeys.get? name with
  | some key => some key
  | none => (start.bind (Text.after? · name)).filter (!·.isEmpty)

/-- Takes in a header for which a span tag is configured. -/
def addTag (settings : Settings) (header : Header) (data : SideData) : SideData :=
  match settings.headerTags.get? header.lowerName with
  | some tag => { data with tags := data.tags.insert tag header.value }
  | none => data

/-- Takes in a baggage header, with its value decoded. -/
def addBaggage (settings : Settings) (start : Option String) (header : Header)
    (data : SideData) : Logged SideData :=
  match baggageKey? settings start header.lowerName with
  | some key => do
      let value ← HeaderValue.decode header.value
      pure { data with baggage := data.baggage.insert key value }
  | none => pure data

def addClientHeader (header : Header) (data : SideData) : SideData :=
  { data with clientHeaders := data.clientHeaders.record header.lowerName header.value }

/-- Takes in one header, which may serve several ends. -/
def add (settings : Settings) (start : Option String) (data : SideData) (header : Header) :
    Logged SideData := do
  let data ← addBaggage settings start header (addTag settings header data)
  pure (addClientHeader header data)

/-- Picks up whatever the headers hold, in order.  Headers whose names begin with `start` are baggage
items under the rest of their lowercase names. -/
def collect (settings : Settings) (start : Option String) (headers : Headers) : Logged SideData :=
  headers.toList.foldlM (add settings start) {}

/-- The result without an identity, which is nothing when nothing was picked up. -/
def withoutIdentity (data : SideData) (origin : Option String) (style : Style) : Extracted :=
  let context : TagContext :=
    { origin, tags := data.tags, baggage := data.baggage, clientHeaders := data.clientHeaders,
      style := some style }
  if context.isEmpty then .nothing else .tagsOnly context

/-- Completes a span context.  A tag that the codec has set itself keeps its value. -/
def complete (data : SideData) (context : SpanContext) : Extracted :=
  .full { context with
    tags := context.tags.unionNew data.tags
    baggage := context.baggage.union data.baggage
    clientHeaders := data.clientHeaders }

end SideData

end TraceHeaders
