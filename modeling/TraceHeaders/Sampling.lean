import TraceHeaders.Text.Blank
import TraceHeaders.Text.Numeral

namespace TraceHeaders

/-- How much a trace is wanted.  Positive priorities keep the trace. -/
structure SamplingPriority where
  value : Int8
  deriving DecidableEq, Repr

namespace SamplingPriority

def autoReject : SamplingPriority := ⟨0⟩

def autoKeep : SamplingPriority := ⟨1⟩

def userKeep : SamplingPriority := ⟨2⟩

def isKeep (p : SamplingPriority) : Bool := 0 < p.value

/-- Whether a user decided, and not a sampler. -/
def isUser (p : SamplingPriority) : Bool :=
  autoKeep.value < p.value || p.value < autoReject.value

/-- The decision alone, as the formats without priorities know it. -/
def ofKeep (keep : Bool) : SamplingPriority := if keep then autoKeep else autoReject

def text (p : SamplingPriority) : String := Text.signedDecimal p.value.toInt

/-- Reads the decimal text, with white space around it. -/
def parse? (s : String) : Option SamplingPriority :=
  (Text.readInt8 (Text.trim s)).toOption.map SamplingPriority.mk

end SamplingPriority

/-- Who took a sampling decision. -/
structure SamplingMechanism where
  value : UInt8
  deriving DecidableEq, Repr

namespace SamplingMechanism

def default : SamplingMechanism := ⟨0⟩

def text (m : SamplingMechanism) : String := "-" ++ Text.decimal m.value.toNat

/-- Reads a minus sign and decimal digits worth at most 255. -/
def parse? (s : String) : Option SamplingMechanism :=
  match s.toList with
  | '-' :: digits =>
      if digits.isEmpty || !digits.all Char.isDigit then none
      else (Text.readNat 10 255 digits).toOption.map fun n => ⟨UInt8.ofNat n⟩
  | _ => none

end SamplingMechanism

end TraceHeaders
