import TraceHeaders.Log.Level

/-!
Computations that write log records.  The records of a sequence of steps are those of its steps in
order, and no step can read what another one wrote.
-/

namespace TraceHeaders.Log

structure Record where
  level : Level
  text : String
  deriving DecidableEq, Repr

end TraceHeaders.Log

namespace TraceHeaders

open Log

/-- A value together with the records that were written while it was computed. -/
structure Logged (α : Type) where
  value : α
  records : List Record

namespace Logged

variable {α β : Type}

instance : Monad Logged where
  pure value := ⟨value, []⟩
  bind step next :=
    let result := next step.value
    ⟨result.value, step.records ++ result.records⟩

def emit (level : Level) (text : String) : Logged Unit := ⟨(), [⟨level, text⟩]⟩

def debug (text : String) : Logged Unit := emit .debug text

def warn (text : String) : Logged Unit := emit .warn text

def error (text : String) : Logged Unit := emit .error text

@[simp] theorem value_pure (a : α) : (pure a : Logged α).value = a := rfl

@[simp] theorem records_pure (a : α) : (pure a : Logged α).records = [] := rfl

@[simp] theorem value_bind (x : Logged α) (f : α → Logged β) :
    (x >>= f).value = (f x.value).value := rfl

@[simp] theorem records_bind (x : Logged α) (f : α → Logged β) :
    (x >>= f).records = x.records ++ (f x.value).records := rfl

@[simp] theorem value_map (f : α → β) (x : Logged α) : (f <$> x).value = f x.value := rfl

@[simp] theorem records_map (f : α → β) (x : Logged α) : (f <$> x).records = x.records :=
  List.append_nil x.records

@[simp] theorem value_foldlM {σ : Type} (f : σ → α → Logged σ) (state : σ) (xs : List α) :
    (xs.foldlM f state).value = xs.foldl (fun state x => (f state x).value) state := by
  induction xs generalizing state with
  | nil => rfl
  | cons x xs ih => simp [List.foldlM_cons, ih]

instance : LawfulMonad Logged :=
  LawfulMonad.mk' Logged (fun x => congrArg (Logged.mk x.value) (List.append_nil x.records))
    (fun _ _ => rfl) (fun x _ _ => congrArg (Logged.mk _) (List.append_assoc x.records _ _))

@[simp] theorem value_mapM (f : α → Logged β) (xs : List α) :
    (xs.mapM f).value = xs.map fun x => (f x).value := by
  induction xs with
  | nil => rfl
  | cons x xs ih => simp [List.mapM_cons, ih]

end Logged

end TraceHeaders
