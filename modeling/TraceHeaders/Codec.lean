import TraceHeaders.CodecError
import TraceHeaders.Context
import TraceHeaders.Headers

/-!
Codecs: the part of a style of headers that reads them and the part that writes them.  A codec may
keep scratch state between its calls.  It may fail, or stop without an answer, and neither must
disturb the other codecs in a chain.
-/

namespace TraceHeaders

/-- How a codec ends when it has no answer: with a failure it reports, or by a crash. -/
inductive Fault where
  | failed (e : CodecError)
  | crashed
  deriving DecidableEq, Repr

/-- Steps that write to the log and work on the scratch state of codecs. -/
abbrev Action (σ : Type) := StateT σ Logged

/-- Steps that write to the log and may end in a fault. -/
abbrev Reading := ExceptT Fault Logged

namespace Reading

variable {α β : Type}

/-- Ends in a failure that the codec reports. -/
def fail (e : CodecError) : Reading α := throw (.failed e)

/-- Goes on with a value that is there. -/
def orFail (e : CodecError) : Option α → Reading α
  | some a => pure a
  | none => fail e

/-- How the steps end, whatever they write to the log. -/
def outcome (x : Reading α) : Except Fault α := x.run.value

@[simp] theorem outcome_pure (a : α) : (pure a : Reading α).outcome = .ok a := rfl

@[simp] theorem outcome_throw (fault : Fault) :
    (throw fault : Reading α).outcome = .error fault := rfl

@[simp] theorem outcome_lift (x : Logged α) : (liftM x : Reading α).outcome = .ok x.value := rfl

@[simp] theorem outcome_bind (x : Reading α) (f : α → Reading β) :
    (x >>= f).outcome = x.outcome >>= fun a => (f a).outcome := by
  change (x.run >>= ExceptT.bindCont f).value = x.run.value.bind _
  rw [Logged.value_bind]
  cases x.run.value <;> rfl

@[simp] theorem outcome_map (f : α → β) (x : Reading α) :
    (f <$> x).outcome = f <$> x.outcome := by
  change (x >>= fun a => pure (f a)).outcome = _
  rw [outcome_bind]
  cases x.outcome <;> rfl

@[simp] theorem outcome_fail (e : CodecError) :
    (fail e : Reading α).outcome = .error (.failed e) := rfl

theorem outcome_orFail (e : CodecError) (a? : Option α) :
    (orFail e a?).outcome = a?.elim (.error (.failed e)) .ok := by
  cases a? <;> rfl

end Reading

/-- The part of a codec that reads headers. -/
structure Extractor (σ : Type) where
  style : Style
  extract : Headers → Action σ (Except Fault Extracted)
  cleanup : Action σ Unit := pure ()

/-- The headers that an injector wrote, in order, and how it ended.  What was written before a fault
stays written. -/
structure Injection where
  writes : List Header
  outcome : Except Fault Unit

/-- The part of a codec that writes the headers in `keys`, baggage apart. -/
structure Injector (σ : Type) where
  style : Style
  keys : List String
  inject : SpanContext → Action σ Injection

variable {σ α : Type}

/-- The extractor without scratch state that reads by a function. -/
def Extractor.ofReading (style : Style) (read : Headers → Reading Extracted) : Extractor σ where
  style := style
  extract headers := liftM (read headers).run

/-- The injector without scratch state that writes by a function and never fails. -/
def Injector.ofWriting (style : Style) (keys : List String)
    (write : SpanContext → Logged (List Header)) : Injector σ where
  style := style
  keys := keys
  inject context := do
    let writes ← liftM (write context)
    pure ⟨writes, .ok ()⟩

/-- Goes on with a fallback where there is no answer, and reports that. -/
def Logged.rescue (fallback : α) : Option α → Logged α
  | some answer => pure answer
  | none => do
      Logged.error "Panic caught Any \x7b .. \x7d"
      pure fallback

/-- The answer of a codec, in which a crash has become a failure. -/
def Fault.settle (operation : Operation) (style : Style) (outcome : Except Fault α) :
    Logged (Except CodecError α) :=
  Logged.rescue (.error (.crashed operation style)) <|
    match outcome with
    | .ok answer => some (.ok answer)
    | .error (.failed e) => some (.error e)
    | .error .crashed => none

end TraceHeaders
