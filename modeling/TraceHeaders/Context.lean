import TraceHeaders.ClientHeaders
import TraceHeaders.PropagationTags
import TraceHeaders.Sampling
import TraceHeaders.Style
import TraceHeaders.TraceId

namespace TraceHeaders

/-- A reference to a span of another trace. -/
structure SpanLink where
  traceId : UInt64
  traceIdUpper : Option UInt64
  spanId : UInt64
  attributes : Option TextMap
  tracestate : Option String
  flags : Option Nat
  deriving DecidableEq

/-- What is known about the trace of a request, and about its span. -/
structure SpanContext where
  traceId : TraceId := default
  spanId : UInt64 := 0
  priority : Option SamplingPriority := none
  mechanism : Option SamplingMechanism := none
  origin : Option String := none
  tags : TextMap := ∅
  propagationTags : PropagationTags := ∅
  baggage : TextMap := ∅
  clientHeaders : ClientHeaders := ∅
  links : List SpanLink := []
  style : Option Style := none
  isRemote : Bool := false
  deriving DecidableEq

instance : Inhabited SpanContext := ⟨{}⟩

/-- What was found beside a missing identity. -/
structure TagContext where
  origin : Option String := none
  tags : TextMap := ∅
  baggage : TextMap := ∅
  clientHeaders : ClientHeaders := ∅
  style : Option Style := none
  deriving DecidableEq

/-- Whether nothing worth passing on was found.  The style does not count. -/
def TagContext.isEmpty (context : TagContext) : Bool :=
  context.origin.isNone && context.tags.isEmpty && context.baggage.isEmpty &&
    context.clientHeaders.isEmpty

/-- What an extractor finds: nothing, data without an identity, or a span context. -/
inductive Extracted where
  | nothing
  | tagsOnly (context : TagContext)
  | full (context : SpanContext)
  deriving DecidableEq

namespace Extracted

def full? : Extracted → Option SpanContext
  | full context => some context
  | _ => none

def tagsOnly? : Extracted → Option TagContext
  | tagsOnly context => some context
  | _ => none

def style? : Extracted → Option Style
  | nothing => none
  | tagsOnly context => context.style
  | full context => context.style

end Extracted

namespace SpanLink

/-- Why a link was made, and from which headers. -/
def terminatedAttributes (style : Option Style) : TextMap :=
  .ofList [("reason", "terminated_context"), ("context_headers", (style.map Style.name).getD "")]

/-- A link to a context that lost against another one.  The flags hold the sampling decision, and the
trace state is kept when the context came from the headers that define it. -/
def terminated (context : SpanContext) : SpanLink where
  traceId := context.traceId.lower
  traceIdUpper := context.traceId.upper?
  spanId := context.spanId
  attributes := some (terminatedAttributes context.style)
  tracestate :=
    if context.style = some .traceContext then context.propagationTags.tracestate else none
  flags := context.priority.map fun priority => if priority.isKeep then 1 else 0

end SpanLink

end TraceHeaders
