import TraceHeaders.Codec

namespace TraceHeaders

/-- Extractors in the order in which they are asked.  With `stopsAtFirst` nobody is asked after one
that has found a full context. -/
structure ExtractorChain (σ : Type) where
  extractors : List (Extractor σ)
  stopsAtFirst : Bool := false

/-- What a search has found so far: the canonical context, which is the first full one, and the
first data without an identity, which counts only where no extractor finds an identity. -/
structure Findings where
  canonical : Option SpanContext := none
  firstTagsOnly : Option TagContext := none
  deriving DecidableEq

/-- A canonical context after a later full context.  One of the same trace only lends it its W3C trace
state, and one of another trace is kept as a link. -/
def SpanContext.reconcile (canonical later : SpanContext) : SpanContext :=
  if canonical.traceId.sameTrace later.traceId then
    if later.style = some .traceContext then
      { canonical with
        propagationTags :=
          canonical.propagationTags.setTracestate later.propagationTags.tracestate }
    else canonical
  else { canonical with links := canonical.links ++ [.terminated later] }

namespace Findings

/-- Takes in one answer. -/
def add (found : Findings) : Extracted → Findings
  | .nothing => found
  | .tagsOnly context => { found with firstTagsOnly := found.firstTagsOnly <|> some context }
  | .full context =>
      { found with canonical := some (found.canonical.elim context (·.reconcile context)) }

/-- The result: a full context if there is one, else the first data without an identity. -/
def result (found : Findings) : Extracted :=
  match found.canonical, found.firstTagsOnly with
  | some context, _ => .full context
  | none, some context => .tagsOnly context
  | none, none => .nothing

end Findings

variable {σ : Type}

/-- Asks one extractor.  A failure is reported and counts as nothing found. -/
def Extractor.ask (extractor : Extractor σ) (headers : Headers) : Action σ Extracted := do
  let outcome ← extractor.extract headers
  match ← liftM (Fault.settle .extract extractor.style outcome) with
  | .ok extracted => pure extracted
  | .error e => do
      liftM e.log
      pure .nothing

namespace ExtractorChain

def styles (chain : ExtractorChain σ) : List Style := chain.extractors.map (·.style)

def isEmpty (chain : ExtractorChain σ) : Bool := chain.extractors.isEmpty

/-- Asks extractors in order, until one that ends the search. -/
def askAll (stopsAtFirst : Bool) (headers : Headers) (found : Findings) :
    List (Extractor σ) → Action σ Findings
  | [] => pure found
  | extractor :: rest => do
      let found := found.add (← extractor.ask headers)
      if stopsAtFirst && found.canonical.isSome then pure found
      else askAll stopsAtFirst headers found rest

/-- Resolves the styles over headers that have been read. -/
def extractFrom (chain : ExtractorChain σ) (headers : Headers) : Action σ Extracted :=
  Findings.result <$> askAll chain.stopsAtFirst headers {} chain.extractors

/-- Reads a carrier in one pass and resolves the styles over what was read.  Without extractors the
carrier is not read. -/
def extract (chain : ExtractorChain σ) (carrier : Action σ Headers) : Action σ Extracted :=
  if chain.isEmpty then pure .nothing else do chain.extractFrom (← carrier)

/-- Lets every extractor clean up after itself. -/
def cleanup (chain : ExtractorChain σ) : Action σ Unit := chain.extractors.forM (·.cleanup)

end ExtractorChain

end TraceHeaders
