import TraceHeaders.Configuration.Environment
import TraceHeaders.Dispatch

namespace TraceHeaders

/-- A configuration together with the chains that read and write every style it names. -/
structure Propagator (σ : Type) where
  config : Configuration
  injector : InjectorChain σ
  extractor : ExtractorChain σ

namespace Propagator

variable {σ : Type}

/-- Sets up both chains, which report repeated styles. -/
def ofConfiguration (config : Configuration) : Logged (Propagator σ) := do
  let settings := config.settings
  let injector ← settings.injectorChain settings.injectors
  let extractor ← settings.extractorChain
  return { config, injector, extractor }

/-- The names of the headers that may be written, baggage apart. -/
def keys (propagator : Propagator σ) : List String := propagator.injector.keys

/-- Writes a context to a carrier in every style. -/
def inject (propagator : Propagator σ) (context : SpanContext) (carrier : Carrier) :
    Action σ (SpanContext × Carrier) :=
  propagator.injector.inject context carrier

/-- Reads a carrier once and resolves all styles over it. -/
def extract (propagator : Propagator σ) (carrier : Carrier) : Action σ Extracted :=
  propagator.extractor.extract (pure carrier.headers)

end Propagator

end TraceHeaders
