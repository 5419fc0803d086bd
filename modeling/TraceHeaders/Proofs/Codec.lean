import TraceHeaders.Codec
import TraceHeaders.Proofs.Text.Numeral
import TraceHeaders.Proofs.TraceId
import TraceHeaders.SideData

namespace TraceHeaders

namespace Reading

variable {α β : Type}

theorem outcome_bind_ok {x : Reading α} {a : α} (h : x.outcome = .ok a) (f : α → Reading β) :
    (x >>= f).outcome = (f a).outcome := by
  rw [outcome_bind, h]
  rfl

theorem outcome_bind_eq_ok_iff {x : Reading α} {f : α → Reading β} {b : β} :
    (x >>= f).outcome = .ok b ↔ ∃ a, x.outcome = .ok a ∧ (f a).outcome = .ok b := by
  rw [outcome_bind]
  cases x.outcome with
  | error fault => simp [bind, Except.bind]
  | ok a => simp [bind, Except.bind]

theorem outcome_liftM_bind (x : Logged α) (f : α → Reading β) :
    (liftM x >>= f).outcome = (f x.value).outcome :=
  outcome_bind_ok (outcome_lift x) f

theorem outcome_orFail_some {e : CodecError} {a? : Option α} {a : α} (h : a? = some a) :
    (orFail e a?).outcome = .ok a := by
  rw [outcome_orFail, h]
  rfl

theorem outcome_orFail_priority (e : CodecError) (priority : SamplingPriority) :
    (some <$> orFail e (SamplingPriority.parse? priority.text)).outcome = .ok (some priority) := by
  rw [outcome_map, outcome_orFail_some priority.parse?_text]
  rfl

/-- Steps that go wrong in one way only: a field in the headers of the style cannot be decoded. -/
def OnlyUndecodable (style : Style) (x : Reading α) : Prop :=
  ∀ fault, x.outcome = .error fault →
    ∃ field, fault = .failed (.unreadable style (.undecodable field))

variable {style : Style}

theorem onlyUndecodable_of_ok {x : Reading α} {a : α} (h : x.outcome = .ok a) :
    x.OnlyUndecodable style := by
  intro fault hfault
  rw [h] at hfault
  cases hfault

theorem onlyUndecodable_of_failed {x : Reading α} {field : Field}
    (h : x.outcome = .error (.failed (.unreadable style (.undecodable field)))) :
    x.OnlyUndecodable style := by
  intro fault hfault
  rw [h] at hfault
  cases hfault
  exact ⟨field, rfl⟩

theorem onlyUndecodable_orFail (field : Field) (a? : Option α) :
    (orFail (.unreadable style (.undecodable field)) a?).OnlyUndecodable style := by
  cases a? with
  | none => exact onlyUndecodable_of_failed rfl
  | some a => exact onlyUndecodable_of_ok rfl

theorem onlyUndecodable_bind {x : Reading α} {f : α → Reading β} (hx : x.OnlyUndecodable style)
    (hf : ∀ a, (f a).OnlyUndecodable style) :
    (x >>= f).OnlyUndecodable style := by
  intro fault hfault
  rw [outcome_bind] at hfault
  cases houtcome : x.outcome with
  | error earlier =>
      rw [houtcome] at hfault
      cases hfault
      exact hx fault houtcome
  | ok a =>
      rw [houtcome] at hfault
      exact hf a fault hfault

theorem onlyUndecodable_liftM_bind {x : Logged α} {f : α → Reading β}
    (h : (f x.value).OnlyUndecodable style) : (liftM x >>= f).OnlyUndecodable style := by
  intro fault hfault
  rw [outcome_liftM_bind] at hfault
  exact h fault hfault

theorem onlyUndecodable_map {x : Reading α} (h : x.OnlyUndecodable style) (f : α → β) :
    (f <$> x).OnlyUndecodable style := by
  intro fault hfault
  rw [outcome_map] at hfault
  cases houtcome : x.outcome with
  | error earlier =>
      rw [houtcome] at hfault
      cases hfault
      exact h fault houtcome
  | ok a =>
      rw [houtcome] at hfault
      cases hfault

theorem onlyUndecodable_foldlM {f : β → α → Reading β}
    (h : ∀ state a, (f state a).OnlyUndecodable style) (xs : List α) (state : β) :
    (xs.foldlM f state).OnlyUndecodable style := by
  induction xs generalizing state with
  | nil => exact onlyUndecodable_of_ok rfl
  | cons x xs ih =>
      rw [List.foldlM_cons]
      exact onlyUndecodable_bind (h state x) fun next => ih next

end Reading

/-- An outcome that is passed on as its codec's own answer: no crash is reported, and the failure that
stands for one is not given. -/
def Fault.IsPassedOn {α : Type} (operation : Operation) (style : Style)
    (outcome : Except Fault α) : Prop :=
  ∃ answer, settle operation style outcome = pure answer ∧
    answer ≠ .error (.crashed operation style)

theorem Fault.isPassedOn_ok {α : Type} (operation : Operation) (style : Style) (a : α) :
    IsPassedOn operation style (.ok a) :=
  ⟨.ok a, rfl, nofun⟩

theorem Reading.OnlyUndecodable.isPassedOn {α : Type} {style : Style} {x : Reading α}
    (h : x.OnlyUndecodable style) : Fault.IsPassedOn .extract style x.outcome := by
  cases houtcome : x.outcome with
  | ok a => exact Fault.isPassedOn_ok .extract style a
  | error fault =>
      obtain ⟨field, rfl⟩ := h fault houtcome
      refine ⟨.error (.unreadable style (.undecodable field)), rfl, ?_⟩
      intro hcrashed
      have hcause := congrArg CodecError.cause (Except.error.inj hcrashed)
      cases hcause

theorem SideData.withoutIdentity_ne_full (side : SideData) (origin : Option String) (style : Style)
    (context : SpanContext) : side.withoutIdentity origin style ≠ .full context := by
  rw [SideData.withoutIdentity]
  split <;> exact Extracted.noConfusion

theorem SideData.complete_restates (side : SideData) {found context : SpanContext}
    (h : found.Restates context) :
    ∃ completed, (pure (side.complete found) : Reading Extracted).outcome = .ok (.full completed) ∧
      completed.Restates context :=
  ⟨_, rfl, h.traceId, h.spanId, h.decision, h.links⟩

end TraceHeaders
