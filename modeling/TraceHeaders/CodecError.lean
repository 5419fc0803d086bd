import TraceHeaders.Log.Logged
import TraceHeaders.Style

namespace TraceHeaders

inductive Operation where
  | extract
  | inject
  deriving DecidableEq, Repr

def Operation.name : Operation → String
  | extract => "extract"
  | inject => "inject"

inductive Field where
  | traceId
  | parentId
  | spanId
  | samplingPriority
  deriving DecidableEq, Repr

def Field.name : Field → String
  | traceId => "trace_id"
  | parentId => "parent_id"
  | spanId => "span_id"
  | samplingPriority => "sampling_priority"

/-- What can be wrong with headers, and what can happen to a codec. -/
inductive Cause where
  | undecodable (field : Field)
  | malformedB3
  | malformedTraceparent
  | zeroTraceId
  | zeroSpanId
  | forbiddenVersion
  | trailingData
  | unknownFlags
  | crashed
  | stated (text : String)
  deriving DecidableEq, Repr

def Cause.text : Cause → String
  | undecodable field => "Failed to decode `" ++ field.name ++ "`"
  | malformedB3 => "Invalid `b3` header"
  | malformedTraceparent => "invalid traceparent"
  | zeroTraceId => "`0` value for trace_id is invalid"
  | zeroSpanId => "`0` value for span_id is invalid"
  | forbiddenVersion => "`ff` is an invalid traceparent version"
  | trailingData =>
      "Traceparent with version `00` should contain only 4 values delimited by `-`"
  | unknownFlags => "invalid trace flags for version 00"
  | crashed => "codec panicked"
  | stated text => text

/-- What went wrong when headers were read or written.  It never reaches the caller of a chain: it
is reported in the log at its own severity. -/
structure CodecError where
  operation : Operation
  propagator : String
  cause : Cause
  level : Log.Level
  deriving DecidableEq, Repr

namespace CodecError

def message (e : CodecError) : String :=
  s!"Cannot {e.operation.name} from {e.propagator}, {e.cause.text}"

/-- A failure to read headers that other programs may well send, worth a word to whoever debugs. -/
def unreadable (style : Style) (cause : Cause) : CodecError :=
  ⟨.extract, style.name, cause, .debug⟩

/-- A failure to read headers that a standard rules out. -/
def rejected (style : Style) (cause : Cause) : CodecError :=
  ⟨.extract, style.name, cause, .error⟩

/-- A codec that did not come back. -/
def crashed (operation : Operation) (style : Style) : CodecError :=
  ⟨operation, style.name, .crashed, .error⟩

def log (e : CodecError) : Logged Unit := Logged.emit e.level e.message

end CodecError

end TraceHeaders
