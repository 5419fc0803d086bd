import TraceHeaders.Format.B3
import TraceHeaders.Format.Datadog
import TraceHeaders.Format.Haystack
import TraceHeaders.Format.TraceContext
import TraceHeaders.Format.Xray

namespace TraceHeaders

open Format

variable {σ : Type}

/-- The names of the headers that a style writes, baggage apart. -/
def Style.keys : Style → List String
  | .datadog => Datadog.keys
  | .b3Multi => B3.Multi.keys
  | .b3Single => B3.Single.keys
  | .haystack => Haystack.keys
  | .xray => Xray.keys
  | .traceContext => TraceContext.keys
  | .none => []

/-- How a style is read.  The style that stands for no headers has no codec. -/
def Style.read? (settings : Settings) : Style → Option (Headers → Reading Extracted)
  | .datadog => some (Datadog.read settings)
  | .b3Multi => some (B3.Multi.read settings)
  | .b3Single => some (B3.Single.read settings)
  | .haystack => some (Haystack.read settings)
  | .xray => some (Xray.read settings)
  | .traceContext => some (TraceContext.read settings)
  | .none => Option.none

/-- How a style is written. -/
def Style.write? (settings : Settings) : Style → Option (SpanContext → Logged (List Header))
  | .datadog => some (Datadog.write settings)
  | .b3Multi => some (B3.Multi.write settings)
  | .b3Single => some (B3.Single.write settings)
  | .haystack => some (Haystack.write settings)
  | .xray => some (Xray.write settings)
  | .traceContext => some (TraceContext.write settings)
  | .none => Option.none

def Style.extractor? (settings : Settings) (style : Style) : Option (Extractor σ) :=
  (style.read? settings).map (.ofReading style)

def Style.injector? (settings : Settings) (style : Style) : Option (Injector σ) :=
  (style.write? settings).map (.ofWriting style style.keys)

end TraceHeaders
