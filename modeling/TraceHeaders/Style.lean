import TraceHeaders.Text.Blank
import TraceHeaders.Text.LowerCase
import TraceHeaders.Text.Pieces

namespace TraceHeaders

/-- A style of headers.  `none` stands for no headers at all, so that a list can switch them off. -/
inductive Style where
  | datadog
  | b3Multi
  | b3Single
  | haystack
  | xray
  | traceContext
  | none
  deriving DecidableEq, Repr

namespace Style

def all : List Style := [datadog, b3Multi, b3Single, haystack, xray, traceContext]

def name : Style → String
  | datadog => "datadog"
  | b3Multi => "b3multi"
  | b3Single => "b3"
  | haystack => "haystack"
  | xray => "xray"
  | traceContext => "tracecontext"
  | none => "none"

/-- Looks up a lowercase name.  One style has several. -/
def ofName? : String → Option Style
  | "datadog" => some datadog
  | "b3multi" => some b3Multi
  | "b3" => some b3Single
  | "b3single" => some b3Single
  | "b3 single header" => some b3Single
  | "haystack" => some haystack
  | "xray" => some xray
  | "tracecontext" => some traceContext
  | "none" => some none
  | _ => Option.none

/-- Reads the name of a style, in any case and with white space around it. -/
def parse? (s : String) : Option Style := ofName? (Text.lower (Text.trim s))

def unknown (s : String) : String := s!"Unknown trace propagation style: '{s}'"

/-- Keeps the first of several equal styles. -/
def distinct : List Style → List Style
  | [] => []
  | style :: styles => style :: (distinct styles).filter (· != style)

end Style

end TraceHeaders
