import TraceHeaders.Text.Pieces
import TraceHeaders.TextMap

namespace TraceHeaders

/-- The start of the keys of all propagated tags. -/
def tagNamespace : String := "_dd.p."

/-- The tag with the upper half of the trace identifier. -/
def upperBitsTag : String := "_dd.p.tid"

/-- The tag that names the component that took the sampling decision. -/
def decisionMakerTag : String := "_dd.p.dm"

/-- The tag with the session of a monitored user. -/
def sessionTag : String := "_dd.p.rsid"

def isPropagated (key : String) : Bool := Text.begins tagNamespace key

/-- Propagated tags and the trace state that was received with them. -/
structure PropagationTags where
  tags : TextMap
  tracestate : Option String
  propagated : ∀ entry ∈ tags.toList, isPropagated entry.1 = true
  deriving DecidableEq

namespace PropagationTags

def empty : PropagationTags := ⟨∅, none, fun _ h => absurd h List.not_mem_nil⟩

instance : EmptyCollection PropagationTags := ⟨empty⟩

instance : Inhabited PropagationTags := ⟨empty⟩

def isEmpty (p : PropagationTags) : Bool := p.tags.isEmpty

def get? (p : PropagationTags) (key : String) : Option String := p.tags.get? key

def contains (p : PropagationTags) (key : String) : Bool := p.tags.contains key

/-- Sets a tag.  Keys outside of the namespace are ignored. -/
def insert (p : PropagationTags) (key value : String) : PropagationTags :=
  if h : isPropagated key = true then
    { p with
      tags := p.tags.insert key value
      propagated := fun entry hentry => by
        rcases TextMap.mem_insertEntry hentry with rfl | hentry
        · exact h
        · exact p.propagated entry hentry }
  else p

def erase (p : PropagationTags) (key : String) : PropagationTags :=
  { p with
    tags := p.tags.erase key
    propagated := fun entry hentry => p.propagated entry (List.mem_filter.1 hentry).1 }

def insertMany (p : PropagationTags) (entries : List (String × String)) : PropagationTags :=
  entries.foldl (fun p (key, value) => p.insert key value) p

/-- The tags among some entries, of which the last one of a key counts. -/
def ofList (entries : List (String × String)) : PropagationTags := insertMany ∅ entries

/-- Replaces the trace state and leaves the tags as they are. -/
def setTracestate (p : PropagationTags) (tracestate : Option String) : PropagationTags :=
  { p with tracestate }

def takeTracestate (p : PropagationTags) : Option String × PropagationTags :=
  (p.tracestate, p.setTracestate none)

def session? (p : PropagationTags) : Option String := p.get? sessionTag

def setSession (p : PropagationTags) (session : String) : PropagationTags :=
  p.insert sessionTag session

def upperBits? (p : PropagationTags) : Option String := p.get? upperBitsTag

end PropagationTags

end TraceHeaders
