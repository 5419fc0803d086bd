import TraceHeaders.Text.Ascii

namespace TraceHeaders

/-- A header with its name and its value as they are. -/
structure Header where
  name : String
  value : String
  deriving DecidableEq, Repr

/-- Whether a header has a name, ignoring the case of ASCII letters. -/
def Header.isNamed (header : Header) (name : String) : Bool :=
  Text.sameIgnoringCase header.name name

def Header.lowerName (header : Header) : String := Text.lowerAscii header.name

/-- The headers of a request, as they were read in one pass and in their order, repeated names
included. -/
structure Headers where
  toList : List Header
  deriving DecidableEq, Repr

namespace Headers

/-- The value of the first header of a name. -/
def get? (headers : Headers) (name : String) : Option String :=
  (headers.toList.find? (·.isNamed name)).map (·.value)

/-- The values of all headers of a name. -/
def getAll (headers : Headers) (name : String) : List String :=
  (headers.toList.filter (·.isNamed name)).map (·.value)

def size (headers : Headers) : Nat := headers.toList.length

def isEmpty (headers : Headers) : Bool := headers.toList.isEmpty

def visitFrom {σ : Type} (visitor : Header → σ → Bool × σ) (state : σ) : List Header → σ
  | [] => state
  | header :: rest =>
      match visitor header state with
      | (true, state) => visitFrom visitor state rest
      | (false, state) => state

/-- Shows the headers in order to a visitor until it has seen enough.  The header at which it stops
has been seen. -/
def visit {σ : Type} (headers : Headers) (visitor : Header → σ → Bool × σ) (state : σ) : σ :=
  visitFrom visitor state headers.toList

end Headers

end TraceHeaders
