import TraceHeaders.Log.Logged
import TraceHeaders.Text.Blank
import TraceHeaders.Text.FormCoding
import TraceHeaders.Text.Pieces

namespace TraceHeaders.HeaderValue

open Text

/-- Decodes a value.  A value that cannot be decoded is kept as it is, and the log says why. -/
def decode (value : String) : Logged String :=
  match decodeForm value with
  | .ok decoded => pure decoded
  | .error e => do
      Logged.debug s!"Failed to decode header value {value}: {e.message}"
      pure value

/-- The first entry of a comma separated list, trimmed.  A value without a comma is no list and is
kept as it is. -/
def first (value : String) : String :=
  match cut? ',' value with
  | some (entry, _) => trim entry
  | none => value

end TraceHeaders.HeaderValue
