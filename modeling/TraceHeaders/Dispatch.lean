import TraceHeaders.Chain.Extraction
import TraceHeaders.Chain.Injection
import TraceHeaders.Format

namespace TraceHeaders

variable {σ : Type}

/-- Takes in one style of a list, unless it is there already. -/
def Style.addOnce (styles : List Style) (style : Style) : Logged (List Style) :=
  if style ∈ styles then do
    Logged.debug s!"Propagation style {style.name} is configured more than once"
    pure styles
  else pure (styles ++ [style])

/-- Keeps the first of several equal styles and reports the others. -/
def Style.once (styles : List Style) : Logged (List Style) := styles.foldlM addOnce []

/-- The chain of the styles to read.  The style without headers contributes nothing. -/
def Settings.extractorChain (settings : Settings) : Logged (ExtractorChain σ) := do
  let styles ← Style.once settings.extractors
  return ⟨styles.filterMap (·.extractor? settings), settings.extractFirst⟩

/-- The chain that writes some styles. -/
def Settings.injectorChain (settings : Settings) (styles : List Style) :
    Logged (InjectorChain σ) := do
  let styles ← Style.once styles
  return ⟨styles.filterMap (·.injector? settings)⟩

/-- An injector for every style that has headers. -/
def Settings.allInjectors (settings : Settings) : List (Style × Injector σ) :=
  Style.all.filterMap fun style => (style.injector? settings).map (style, ·)

end TraceHeaders
