import TraceHeaders.Headers
import TraceHeaders.Settings

namespace TraceHeaders.Format

def openTracingStart : String := "ot-baggage-"

/-- The name under which a baggage item is written: the configured one, or else its key after
`start`. -/
def baggageName (settings : Settings) (start key : String) : String :=
  (settings.baggageHeader? key).getD (start ++ key)

/-- Baggage as headers of its own, one for each item. -/
def writeBaggage (settings : Settings) (start : String) (encode : String → String)
    (baggage : TextMap) : List Header :=
  baggage.toList.map fun (key, value) => ⟨baggageName settings start key, encode value⟩

end TraceHeaders.Format
