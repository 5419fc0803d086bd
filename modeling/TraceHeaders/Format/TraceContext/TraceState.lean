import TraceHeaders.Context
import TraceHeaders.Text.Ascii

/-!
The tracestate header: a comma separated list of members, one for each vendor.  The Datadog member
holds pairs of keys and values, which are written with reserved characters masked, since the format
has no escapes.  Members of other vendors are passed on as they are.
-/

namespace TraceHeaders.Format.TraceContext

open Text

/-- The start of the Datadog member. -/
def memberStart : String := "dd="

/-- The start of the key of a propagated tag. -/
def tagStart : String := "t."

/-- The Datadog member, without its start, is shorter than this many bytes. -/
def memberLimit : Nat := 256

/-- How many members of other vendors are passed on. -/
def foreignLimit : Nat := 31

/-- The members of a header, trimmed. -/
def members (s : String) : List String := (pieces ',' s).map trim

/-- What the Datadog members of a header hold. -/
structure TraceState where
  priority : Option SamplingPriority := none
  origin : Option String := none
  parentId : Option String := none
  tags : List (String × String) := []
  deriving DecidableEq

namespace TraceState

/-- A value as it was before its equals signs were masked. -/
def unmask (s : String) : String := swap '~' '=' s

/-- Takes in one pair.  A later pair of the same key counts, even when its value is no priority. -/
def add (state : TraceState) (pair : String × String) : TraceState :=
  match pair.1 with
  | "s" => { state with priority := SamplingPriority.parse? pair.2 }
  | "o" => { state with origin := some (unmask pair.2) }
  | "p" => { state with parentId := some pair.2 }
  | key =>
      match after? tagStart key with
      | some tag => { state with tags := state.tags ++ [(tagNamespace ++ tag, unmask pair.2)] }
      | none => state

/-- The pairs of a member, which are none when it is that of another vendor. -/
def pairs (member : String) : List (String × String) :=
  match after? memberStart member with
  | some content => (pieces ';' (trim content)).filterMap (cut? ':')
  | none => []

/-- Whether all members can be read. -/
def isPrintable (s : String) : Bool := (members s).all (·.toList.all isPrintableAscii)

/-- Reads a header.  All of its Datadog members count, one after another. -/
def parse? (s : String) : Option TraceState :=
  if isPrintable s then some (((members s).flatMap pairs).foldl add {}) else none

end TraceState

/-- Masks the characters that are not allowed. -/
def mask (allowed : Char → Bool) (s : String) : String :=
  String.ofList (s.toList.map fun c => if allowed c then c else '_')

/-- The characters of the origin and of tag values: printable, but neither a separator nor the tilde
that stands for an equals sign. -/
def isValueChar (c : Char) : Bool := isPrintableAscii c && c != ',' && c != ';' && c != '~'

/-- The characters of tag keys: printable, but neither a blank, a comma nor an equals sign. -/
def isTagKeyChar (c : Char) : Bool := isPrintableAscii c && c != ' ' && c != ',' && c != '='

/-- Masks a value.  An equals sign becomes a tilde, from which it comes back. -/
def maskValue (s : String) : String := swap '=' '~' (mask isValueChar s)

/-- The part with the sampling priority, which comes first.  A context without a decision is
kept. -/
def priorityPart (context : SpanContext) : String :=
  "s:" ++ (context.priority.getD .userKeep).text

/-- The part of a propagated tag.  The upper half of the trace identifier has no part, since the
traceparent header holds it. -/
def tagPart? (tag : String × String) : Option String :=
  match after? tagNamespace tag.1 with
  | none => none
  | some key =>
      if key = "tid" then none
      else some (tagStart ++ mask isTagKeyChar key ++ ":" ++ maskValue tag.2)

/-- The parts that follow the priority: the origin, the span and the propagated tags. -/
def otherParts (context : SpanContext) : List String :=
  (context.origin.map fun origin => "o:" ++ maskValue origin).toList ++
    ["p:" ++ hexPadded 16 context.spanId.toNat] ++
    context.propagationTags.tags.toList.filterMap tagPart?

/-- Adds a part to the member if it still fits. -/
def addPart (content part : String) : String :=
  if content.utf8ByteSize + part.utf8ByteSize + 1 < memberLimit then content ++ ";" ++ part
  else content

/-- The Datadog member, without its start. -/
def memberContent (context : SpanContext) : String :=
  (otherParts context).foldl addPart (priorityPart context)

/-- The members of other vendors that are passed on. -/
def foreignMembers (tracestate : String) : List String :=
  ((members tracestate).filter fun member =>
    !member.isEmpty && !begins memberStart member).take foreignLimit

/-- Writes the header, in which the Datadog member comes first. -/
def renderTraceState (context : SpanContext) : String :=
  ",".intercalate ((memberStart ++ memberContent context) ::
    context.propagationTags.tracestate.elim [] foreignMembers)

end TraceHeaders.Format.TraceContext
