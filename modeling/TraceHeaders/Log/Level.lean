import TraceHeaders.Text.Ascii
import TraceHeaders.Text.Blank

namespace TraceHeaders.Log

/-- The most verbose severity that is printed. -/
inductive LevelFilter where
  | off
  | error
  | warn
  | info
  | debug
  deriving DecidableEq, Repr

/-- The severity of a record. -/
inductive Level where
  | error
  | warn
  | info
  | debug
  deriving DecidableEq, Repr

namespace LevelFilter

def all : List LevelFilter := [.off, .error, .warn, .info, .debug]

def rank : LevelFilter → Nat
  | .off => 0
  | .error => 1
  | .warn => 2
  | .info => 3
  | .debug => 4

def name : LevelFilter → String
  | .off => "OFF"
  | .error => "ERROR"
  | .warn => "WARN"
  | .info => "INFO"
  | .debug => "DEBUG"

instance : Inhabited LevelFilter := ⟨.error⟩

instance : Ord LevelFilter where
  compare a b := compare a.rank b.rank

def expectation : String :=
  "log level filter should be one of DEBUG, INFO, WARN, ERROR, OFF"

/-- Reads the name of a filter, in any case. -/
def parse? (s : String) : Option LevelFilter :=
  all.find? fun filter => Text.sameIgnoringCase (Text.trim s) filter.name

end LevelFilter

namespace Level

/-- The filter that lets this severity and all graver ones through. -/
def toFilter : Level → LevelFilter
  | .error => .error
  | .warn => .warn
  | .info => .info
  | .debug => .debug

def name (level : Level) : String := level.toFilter.name

def compareFilter (level : Level) (filter : LevelFilter) : Ordering :=
  compare level.toFilter filter

end Level

end TraceHeaders.Log
