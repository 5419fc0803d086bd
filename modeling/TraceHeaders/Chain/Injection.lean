import TraceHeaders.Carrier
import TraceHeaders.Codec

namespace TraceHeaders

/-- The span tag under which the session of a monitored user is recorded. -/
def sessionSpanTag : String := "session_id"

/-- Injectors in the order in which they write.  They do not coordinate: where two of them write the
same header, the carrier decides what remains. -/
structure InjectorChain (σ : Type) where
  injectors : List (Injector σ)

/-- Copies the session from the span tags to the propagated tags, if there is one. -/
def SpanContext.withSession (context : SpanContext) : SpanContext :=
  match context.tags.get? sessionSpanTag with
  | some session =>
      { context with propagationTags := context.propagationTags.setSession session }
  | none => context

variable {σ : Type}

/-- Lets one injector write.  A failure is reported, and what was written before it remains. -/
def Injector.write (injector : Injector σ) (context : SpanContext) : Action σ (List Header) := do
  let injection ← injector.inject context
  match ← liftM (Fault.settle .inject injector.style injection.outcome) with
  | .ok () => pure injection.writes
  | .error e => do
      liftM e.log
      pure injection.writes

namespace InjectorChain

def styles (chain : InjectorChain σ) : List Style := chain.injectors.map (·.style)

/-- The names of the headers that may be written, each once, baggage apart. -/
def keys (chain : InjectorChain σ) : List String := (chain.injectors.flatMap (·.keys)).eraseDups

def isEmpty (chain : InjectorChain σ) : Bool := chain.injectors.isEmpty

/-- Lets injectors write one after the other, all of them for one context. -/
def writeAll (context : SpanContext) : List (Injector σ) → Action σ (List Header)
  | [] => pure []
  | injector :: rest => do
      let first ← injector.write context
      return first ++ (← writeAll context rest)

/-- Writes a context to a carrier.  The answer holds the context with its session copied, which is
what every injector gets to see. -/
def inject (chain : InjectorChain σ) (context : SpanContext) (carrier : Carrier) :
    Action σ (SpanContext × Carrier) := do
  let context := context.withSession
  let writes ← writeAll context chain.injectors
  return (context, carrier.setAll writes)

end InjectorChain

end TraceHeaders
