import TraceHeaders.CodecError
import TraceHeaders.Text.Ascii
import TraceHeaders.Text.Numeral
import TraceHeaders.TraceId

/-!
The traceparent header: a version, a trace identifier, a span identifier and flags, in lowercase
hexadecimal with dashes between them.  Later versions may add more after another dash.
-/

namespace TraceHeaders.Format.TraceContext

open Text

/-- The fields of a traceparent header as they stand, together with what follows the flags. -/
structure TraceParentFields where
  version : List Char
  traceId : List Char
  spanId : List Char
  flags : List Char
  tail : List Char

/-- A traceparent header that is accepted. -/
structure TraceParent where
  version : String
  traceId : TraceId
  spanId : UInt64
  sampled : Bool
  deriving DecidableEq, Repr

/-- Takes a field of so many lowercase digits off the front. -/
def takeField? (width : Nat) (cs : List Char) : Option (List Char × List Char) :=
  let field := cs.take width
  if field.length = width ∧ field.all isLowerHex then some (field, cs.drop width) else none

def takeDash? : List Char → Option (List Char)
  | '-' :: cs => some cs
  | _ => none

/-- What may follow the flags: nothing, or a dash and more on the same line. -/
def isTail : List Char → Bool
  | [] => true
  | '-' :: cs => cs.all (· != '\n')
  | _ => false

namespace TraceParentFields

/-- Takes a header apart into fields, whatever their values are. -/
def parse? (cs : List Char) : Option TraceParentFields := do
  let (version, cs) ← takeField? 2 cs
  let (traceId, cs) ← takeField? 32 (← takeDash? cs)
  let (spanId, cs) ← takeField? 16 (← takeDash? cs)
  let (flags, tail) ← takeField? 2 (← takeDash? cs)
  if isTail tail then some { version, traceId, spanId, flags, tail } else none

/-- Whether the version is the one that is fully known, which has nothing after the flags. -/
def isKnownVersion (fields : TraceParentFields) : Bool := fields.version == ['0', '0']

/-- What is wrong with the values of the fields: the identifiers come before the version. -/
def defect? (fields : TraceParentFields) : Option Cause :=
  if hexValue fields.traceId = 0 then some .zeroTraceId
  else if hexValue fields.spanId = 0 then some .zeroSpanId
  else if fields.version = ['f', 'f'] then some .forbiddenVersion
  else if fields.isKnownVersion && fields.tail != [] && fields.tail != ['-'] then
    some .trailingData
  else if fields.isKnownVersion && 2 < hexValue fields.flags then some .unknownFlags
  else none

/-- The values of the fields.  Of the flags only the lowest one is known. -/
def toTraceParent (fields : TraceParentFields) : TraceParent where
  version := String.ofList fields.version
  traceId := .wide (hexValue fields.traceId)
  spanId := UInt64.ofNat (hexValue fields.spanId)
  sampled := hexValue fields.flags % 2 == 1

end TraceParentFields

namespace TraceParent

/-- Reads a header.  Its shape is checked before its values are. -/
def parse (s : String) : Except Cause TraceParent :=
  match TraceParentFields.parse? s.toList with
  | none => .error .malformedTraceparent
  | some fields =>
      match fields.defect? with
      | some defect => .error defect
      | none => .ok fields.toTraceParent

/-- Writes a header of the known version. -/
def render (traceId : TraceId) (spanId : UInt64) (sampled : Bool) : String :=
  "00-" ++ hexPadded 32 traceId.toNat ++ "-" ++ hexPadded 16 spanId.toNat ++
    if sampled then "-01" else "-00"

end TraceParent

end TraceHeaders.Format.TraceContext
