import TraceHeaders.Log.Logged
import TraceHeaders.Settings
import TraceHeaders.Text.Blank
import TraceHeaders.Text.Pieces

namespace TraceHeaders

/-- A nested value.  Numbers that are not whole are never of use here, so their value is not kept. -/
inductive Document where
  | null
  | flag (value : Bool)
  | whole (value : Int)
  | fraction
  | text (value : String)
  | items (values : List Document)
  | fields (values : List (String × Document))

namespace Document

/-- The names of the fields, in the order in which a list of values gives them. -/
def fieldNames : List String :=
  ["style", "style_extract", "style_inject", "extract_first", "header_tags", "baggage_mapping",
    "inverted_baggage_mapping", "b3_padding_enabled", "datadog_tags_max_length"]

def flag? : Document → Option Bool
  | flag value => some value
  | _ => none

def text? : Document → Option String
  | text value => some value
  | _ => none

def size? : Document → Option Nat
  | whole value => if 0 ≤ value ∧ value < UInt64.size then some value.toNat else none
  | _ => none

def textMap? : Document → Option TextMap
  | fields values => do
      let entries ← values.mapM fun (name, value) => value.text?.map (name, ·)
      pure (.ofList entries)
  | _ => none

/-- Reads the name of a style.  An unknown one is reported. -/
def readStyle (token : String) : Logged (Option Style) :=
  match Style.parse? token with
  | some style => pure (some style)
  | none => do
      Logged.warn ("Failed to deserialize propagation style: " ++ Style.unknown token)
      pure none

/-- Reads a comma separated list of styles.  The empty text counts as no list. -/
def readStyles (s : String) : Logged (Option (List Style)) :=
  if s.isEmpty then pure none
  else do
    let styles ← ((Text.pieces ',' s).map Text.trim).mapM readStyle
    pure (some (Style.distinct styles.reduceOption))

def styles? (value : Document) : OptionT Logged (Option (List Style)) := do
  let s ← OptionT.mk (pure value.text?)
  readStyles s

def expect {α : Type} (value : Option α) : OptionT Logged α := OptionT.mk (pure value)

/-- Takes in one field.  Fields of other names are left out of account. -/
def setField (settings : Settings) (field : String × Document) : OptionT Logged Settings :=
  let (name, value) := field
  match name with
  | "style" => return { settings with styles := ← value.styles? }
  | "style_extract" => return { settings with extractStyles := ← value.styles? }
  | "style_inject" => return { settings with injectStyles := ← value.styles? }
  | "extract_first" => return { settings with extractFirst := ← expect value.flag? }
  | "header_tags" => return { settings with headerTags := ← expect value.textMap? }
  | "baggage_mapping" => return { settings with baggageKeys := ← expect value.textMap? }
  | "inverted_baggage_mapping" => return { settings with baggageHeaders := ← expect value.textMap? }
  | "b3_padding_enabled" => return { settings with padsB3 := ← expect value.flag? }
  | "datadog_tags_max_length" => return { settings with tagsLimit := ← expect value.size? }
  | _ => return settings

/-- Reads settings from fields by name, or from a list of at most as many values as there are fields.
Fields that are missing keep their defaults, and a value of the wrong kind makes the whole document
unreadable. -/
def settings? : Document → OptionT Logged Settings
  | fields values => values.foldlM setField {}
  | items values =>
      if values.length ≤ fieldNames.length then (fieldNames.zip values).foldlM setField {}
      else OptionT.fail
  | _ => OptionT.fail

end Document

end TraceHeaders
