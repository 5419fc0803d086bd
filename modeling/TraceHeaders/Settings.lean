import TraceHeaders.Style
import TraceHeaders.TextMap

namespace TraceHeaders

/-- The settings of the codecs.  `headerTags` maps header names to span tags and `baggageKeys` maps
header names to baggage keys, both by lowercase name; `baggageHeaders` maps baggage keys to the
header names under which they are written.  `tagsLimit` bounds the bytes of the header with propagated
tags, and zero switches that header off. -/
structure Settings where
  styles : Option (List Style) := none
  extractStyles : Option (List Style) := none
  injectStyles : Option (List Style) := none
  extractFirst : Bool := false
  headerTags : TextMap := ∅
  baggageKeys : TextMap := ∅
  baggageHeaders : TextMap := ∅
  padsB3 : Bool := true
  tagsLimit : Nat := 512
  deriving DecidableEq

namespace Settings

instance : Inhabited Settings := ⟨{}⟩

def maxTagsLimit : Nat := 512

def defaultStyles : List Style := [.datadog, .traceContext]

/-- The styles to read, in order: those for reading, else those for both, else the default ones. -/
def extractors (settings : Settings) : List Style :=
  (settings.extractStyles <|> settings.styles).getD defaultStyles

/-- The styles to write, in order: those for writing, else those for both, else the default ones. -/
def injectors (settings : Settings) : List Style :=
  (settings.injectStyles <|> settings.styles).getD defaultStyles

def baggageHeader? (settings : Settings) (key : String) : Option String :=
  settings.baggageHeaders.get? key

end Settings

end TraceHeaders
