import TraceHeaders.Log.Level
import TraceHeaders.Settings
import TraceHeaders.Text.LowerCase

namespace TraceHeaders

/-- The configuration.  Header names are in lowercase. -/
structure Configuration where
  logLevel : Log.LevelFilter := default
  styles : Option (List Style) := some Settings.defaultStyles
  extractStyles : Option (List Style) := none
  injectStyles : Option (List Style) := none
  extractFirst : Bool := false
  padsB3 : Bool := true
  headerTags : List (String × String) := []
  headerBaggage : List (String × String) := []
  tagsLimit : Nat := Settings.maxTagsLimit
  deriving DecidableEq

/-- A change that a program makes to the configuration. -/
inductive Change where
  | logLevel (filter : Log.LevelFilter)
  | styles (styles : List Style)
  | extractStyles (styles : List Style)
  | injectStyles (styles : List Style)
  | extractFirst (stops : Bool)
  | padsB3 (pads : Bool)
  | headerTags (tags : List (String × String))
  | headerBaggage (baggage : List (String × String))
  | tagsLimit (limit : Nat)

namespace Configuration

instance : Inhabited Configuration := ⟨{}⟩

def lowerNames (mapping : List (String × String)) : List (String × String) :=
  mapping.map fun (name, value) => (Text.lower name, value)

/-- The configuration after one change. -/
def apply (config : Configuration) : Change → Configuration
  | .logLevel filter => { config with logLevel := filter }
  | .styles styles => { config with styles := some styles }
  | .extractStyles styles => { config with extractStyles := some styles }
  | .injectStyles styles => { config with injectStyles := some styles }
  | .extractFirst stops => { config with extractFirst := stops }
  | .padsB3 pads => { config with padsB3 := pads }
  | .headerTags tags => { config with headerTags := lowerNames tags }
  | .headerBaggage baggage => { config with headerBaggage := lowerNames baggage }
  | .tagsLimit limit => { config with tagsLimit := min limit Settings.maxTagsLimit }

def applyAll (config : Configuration) (changes : List Change) : Configuration :=
  changes.foldl apply config

/-- The settings of the codecs.  Of two headers for one baggage key, the later in the order of names is
written. -/
def settings (config : Configuration) : Settings :=
  let baggageKeys := TextMap.ofList (lowerNames config.headerBaggage)
  { styles := config.styles
    extractStyles := config.extractStyles
    injectStyles := config.injectStyles
    extractFirst := config.extractFirst
    headerTags := .ofList (lowerNames config.headerTags)
    baggageKeys
    baggageHeaders := .ofList (baggageKeys.toList.map fun (header, key) => (key, header))
    padsB3 := config.padsB3
    tagsLimit := min config.tagsLimit Settings.maxTagsLimit }

end Configuration

end TraceHeaders
