import TraceHeaders.Configuration
import TraceHeaders.Log.Session
import TraceHeaders.Text.Numeral
import TraceHeaders.Text.Pieces
import TraceHeaders.Text.Quoted

namespace TraceHeaders

open Text

/-- The variables that configure trace propagation. -/
inductive Variable where
  | logLevel
  | styles
  | extractStyles
  | injectStyles
  | extractFirst
  | padsB3
  | headerTags
  | headerBaggage
  | tagsLimit
  deriving DecidableEq, Repr

def Variable.name : Variable → String
  | logLevel => "DD_LOG_LEVEL"
  | styles => "DD_TRACE_PROPAGATION_STYLE"
  | extractStyles => "DD_TRACE_PROPAGATION_STYLE_EXTRACT"
  | injectStyles => "DD_TRACE_PROPAGATION_STYLE_INJECT"
  | extractFirst => "DD_TRACE_PROPAGATION_EXTRACT_FIRST"
  | padsB3 => "DD_TRACE_PROPAGATION_STYLE_B3_PADDING_ENABLED"
  | headerTags => "DD_TRACE_HEADER_TAGS"
  | headerBaggage => "DD_TRACE_HEADER_BAGGAGE"
  | tagsLimit => "DD_TRACE_X_DATADOG_TAGS_MAX_LENGTH"

/-- The variables of a process, as far as they are set. -/
structure Environment where
  get? : Variable → Option String

namespace Environment

/-- A kind of value, with the name it has in reports and the reason why a text is none. -/
structure Kind (α : Type) where
  name : String
  parse : String → Except String α

def filterKind : Kind Log.LevelFilter where
  name := "dd_trace::log::LevelFilter"
  parse s :=
    match Log.LevelFilter.parse? s with
    | some filter => .ok filter
    | none => .error Log.LevelFilter.expectation

def flagKind : Kind Bool where
  name := "bool"
  parse s :=
    if s = "true" then .ok true
    else if s = "false" then .ok false
    else .error "provided string was not `true` or `false`"

def sizeKind : Kind Nat where
  name := "usize"
  parse s := (readNat 10 (UInt64.size - 1) s.toList).mapError NumeralError.message

/-- Reads the value of a variable.  A value that is none of its kind is reported and left out of
account. -/
def read {α : Type} (env : Environment) (kind : Kind α) (v : Variable) :
    Logged (Option α) :=
  match env.get? v with
  | none => pure none
  | some raw =>
      match kind.parse raw with
      | .ok value => pure (some value)
      | .error reason => do
          Logged.debug s!"Configuration: ignoring {v.name}={quoted raw} from env_var as {kind.name}: {reason}"
          pure none

/-- The entries of a comma separated list, trimmed and without the blank ones. -/
def tokens (s : String) : List String :=
  ((pieces ',' s).map trim).filter (!·.isEmpty)

/-- Reads the name of a style.  An unknown one is reported. -/
def readStyle (token : String) : Logged (Option Style) :=
  match Style.parse? token with
  | some style => pure (some style)
  | none => do
      Logged.warn ("Error parsing: " ++ Style.unknown token)
      pure none

/-- Reads a list of styles.  A list without entries counts as no list, but a list of unknown styles
counts as an empty one. -/
def readStyles (s : String) : Logged (Option (List Style)) :=
  match tokens s with
  | [] => pure none
  | tokens => do
      let styles ← tokens.mapM readStyle
      pure (some (Style.distinct styles.reduceOption))

/-- Reads an entry of a header mapping: a header name in lowercase, and after a colon its value,
unless that is empty. -/
def readMapping (entry : String) : String × Option String :=
  match cut? ':' entry with
  | some (header, value) =>
      (lower (trim header), (some (trim value)).filter (!·.isEmpty))
  | none => (lower entry, none)

/-- Reads a list of header mappings.  A mapping without a header is left out. -/
def readMappings (s : String) : List (String × Option String) :=
  ((tokens s).map readMapping).filter (!·.1.isEmpty)

/-- The span tag of a header for which none is configured: all but letters, digits and dashes is
masked. -/
def defaultTag (header : String) : String :=
  "http.request.headers." ++ String.ofList (header.toList.map fun c =>
    if c.isAlphanum || c = '-' then c.toLower else '_')

/-- Reads the span tags of headers. -/
def readHeaderTags (s : String) : List (String × String) :=
  (readMappings s).map fun (header, tag) => (header, tag.getD (defaultTag header))

/-- Reads the baggage key of a header.  A mapping without a key is reported. -/
def readBaggageKey (mapping : String × Option String) : Logged (Option (String × String)) :=
  match mapping.2 with
  | some key => pure (some (mapping.1, key))
  | none => do
      Logged.warn s!"Ignoring header baggage mapping without a key: {mapping.1}"
      pure none

/-- Reads the baggage keys of headers. -/
def readHeaderBaggage (s : String) : Logged (List (String × String)) := do
  let mappings ← (readMappings s).mapM readBaggageKey
  pure mappings.reduceOption

/-- Reads the styles of a variable, which is left at its default when it is not set. -/
def readStylesOf (env : Environment) (v : Variable) (default : Option (List Style)) :
    Logged (Option (List Style)) :=
  match env.get? v with
  | some s => readStyles s
  | none => pure default

/-- The configuration as the environment of a process sets it.  A value that cannot be read is
reported and leaves the default in place. -/
def configuration (env : Environment) : Logged Configuration := do
  let base : Configuration := {}
  let headerTags := (env.get? .headerTags).elim base.headerTags readHeaderTags
  let headerBaggage ←
    match env.get? .headerBaggage with
    | some s => readHeaderBaggage s
    | none => pure base.headerBaggage
  let logLevel ← env.read filterKind .logLevel
  let styles ← env.readStylesOf .styles base.styles
  let extractStyles ← env.readStylesOf .extractStyles base.extractStyles
  let injectStyles ← env.readStylesOf .injectStyles base.injectStyles
  let extractFirst ← env.read flagKind .extractFirst
  let padsB3 ← env.read flagKind .padsB3
  let tagsLimit ← env.read sizeKind .tagsLimit
  return {
    logLevel := logLevel.getD base.logLevel
    styles
    extractStyles
    injectStyles
    extractFirst := extractFirst.getD base.extractFirst
    padsB3 := padsB3.getD base.padsB3
    headerTags
    headerBaggage
    tagsLimit := (tagsLimit.map (min · Settings.maxTagsLimit)).getD base.tagsLimit }

end Environment

/-- Puts a configuration in force: its log level becomes the maximum level of the session. -/
def Configuration.putInForce (config : Configuration) (session : Log.Session) : Log.Session :=
  session.setMaxLevel config.logLevel

end TraceHeaders
