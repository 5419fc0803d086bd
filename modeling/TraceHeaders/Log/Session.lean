import TraceHeaders.Log.Logged

namespace TraceHeaders.Log

/-- A logging session: the maximum level in force and the records captured so far, which are
captured whatever that level is. -/
structure Session where
  maxLevel : LevelFilter := default
  captured : List Record := []

namespace Session

variable {α : Type}

/-- Does some work and captures its records. -/
def run (session : Session) (work : Logged α) : α × Session :=
  (work.value, { session with captured := session.captured ++ work.records })

/-- Does some work on another thread.  Without the session at hand its records are lost. -/
def runElsewhere (session : Session) (carried : Bool) (work : Logged α) : α × Session :=
  if carried then session.run work else (work.value, session)

/-- Does some work inside a capture of its own, which gets all of its records. -/
def runNested (session : Session) (work : Logged α) : List Record × Session :=
  (work.records, session)

/-- Takes out the records that were captured. -/
def take (session : Session) : List Record × Session :=
  (session.captured, { session with captured := [] })

def setMaxLevel (session : Session) (filter : LevelFilter) : Session :=
  { session with maxLevel := filter }

end Session

end TraceHeaders.Log
