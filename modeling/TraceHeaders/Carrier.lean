import TraceHeaders.Headers
import TraceHeaders.Text.LowerCase
import TraceHeaders.TextMap

namespace TraceHeaders

/-- A carrier of headers.  A `list` keeps the order and repeated names.  A `map` holds one value for a
name and lowercases the names written to it.  A `keyed` carrier also keeps an ordered list, but is
read by name: it lists its names, and answers each of them with the first value of exactly that
name. -/
inductive Carrier where
  | list (headers : List Header)
  | map (headers : TextMap)
  | keyed (headers : List Header)
  deriving DecidableEq

namespace Carrier

/-- The value of the first header of exactly that name. -/
def firstValue? (name : String) (headers : List Header) : Option String :=
  (headers.find? (·.name == name)).map (·.value)

/-- The headers as they are read, which is by name when the carrier is keyed. -/
def toList : Carrier → List Header
  | list headers => headers
  | map headers => headers.toList.map fun (name, value) => ⟨name, value⟩
  | keyed headers =>
      headers.filterMap fun header => (firstValue? header.name headers).map (⟨header.name, ·⟩)

def headers (carrier : Carrier) : Headers := ⟨carrier.toList⟩

/-- What the carrier holds, whatever the way it is read. -/
def contents : Carrier → List Header
  | list headers => headers
  | map headers => headers.toList.map fun (name, value) => ⟨name, value⟩
  | keyed headers => headers

/-- Writes one header.  Only a map gives up a value that was there before. -/
def set (carrier : Carrier) (header : Header) : Carrier :=
  match carrier with
  | list headers => list (headers ++ [header])
  | map headers => map (headers.insert (Text.lower header.name) header.value)
  | keyed headers => keyed (headers ++ [header])

def setAll (carrier : Carrier) (headers : List Header) : Carrier := headers.foldl set carrier

end Carrier

end TraceHeaders
