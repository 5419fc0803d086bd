import TraceHeaders.Proofs.Format.TraceContext.Read

namespace TraceHeaders.Format.TraceContext

open Text

def flagsText (sampled : Bool) : String := if sampled then "01" else "00"

theorem pieces_render (traceId : TraceId) (spanId : UInt64) (sampled : Bool) :
    pieces '-' (TraceParent.render traceId spanId sampled) =
      ["00", hexPadded 32 traceId.toNat, hexPadded 16 spanId.toNat, flagsText sampled] := by
  have hrender : TraceParent.render traceId spanId sampled = "-".intercalate
      ["00", hexPadded 32 traceId.toNat, hexPadded 16 spanId.toNat, flagsText sampled] := by
    have hstart : "00".toList = ['0', '0'] := by decide
    have hdash : "-".toList = ['-'] := by decide
    have hflags : (flagsText sampled).toList = flagDigits sampled := by
      cases sampled <;> decide
    rw [← String.toList_inj, toList_render, String.intercalate_cons_cons,
      String.intercalate_cons_cons, String.intercalate_cons_cons, String.intercalate_singleton]
    simp only [String.toList_append, toList_hexPadded, hstart, hdash, hflags, List.append_assoc,
      List.singleton_append]
  have hhex (width n : Nat) : '-' ∉ (hexPadded width n).toList :=
    not_mem_of_isLowerHex (fun c => isLowerHex_of_mem_hexPadded) (by decide)
  rw [hrender]
  apply pieces_intercalate (by decide) (List.cons_ne_nil _ _)
  intro field hfield
  simp only [List.mem_cons, List.not_mem_nil, or_false] at hfield
  rcases hfield with rfl | rfl | rfl | rfl
  · decide
  · exact hhex 32 _
  · exact hhex 16 _
  · cases sampled <;> decide

/-- The first part of the member is the priority, whatever separators the other parts hold. -/
theorem head?_pieces_memberContent (context : SpanContext) :
    (pieces ';' (memberContent context)).head? = some (priorityPart context) := by
  rw [memberContent_eq, memberParts,
    pieces_intercalate_eq_flatMap (by decide) (List.cons_ne_nil _ _), List.flatMap_cons,
    pieces_eq_singleton (not_mem_priorityPart context)]
  rfl

/-- The decisions that two headers state: `flags` in the one, `priority` in the other. -/
structure States (traceparent tracestate flags : String) (priority : SamplingPriority) : Prop where
  flags : (pieces '-' traceparent)[3]? = some flags
  priority : ∃ content, (pieces ',' tracestate).head? = some ("dd=" ++ content) ∧
    (pieces ';' content).head? = some ("s:" ++ priority.text)

theorem states_written (context : SpanContext) :
    States
      (TraceParent.render context.traceId context.spanId (context.priority.any (·.isKeep)))
      (renderTraceState context) (flagsText (context.priority.any (·.isKeep)))
      (context.priority.getD .userKeep) where
  flags := by
    rw [pieces_render]
    rfl
  priority := by
    refine ⟨memberContent context, ?_, head?_pieces_memberContent context⟩
    rw [pieces_renderTraceState]
    rfl

theorem flagsText_eq_iff {sampled : Bool} : flagsText sampled = "01" ↔ sampled = true := by
  cases sampled <;> decide

/-- The two headers state the same decision if and only if a decision was taken.  Otherwise one says that
the trace is not sampled and the other that a user keeps it. -/
theorem written_decisions_agree_iff (settings : Settings) {context : SpanContext}
    (h : Identified context) :
    ∃ traceparent tracestate flags priority,
      Headers.get? ⟨(write settings context).value⟩ traceparentHeader = some traceparent ∧
      Headers.get? ⟨(write settings context).value⟩ tracestateHeader = some tracestate ∧
      States traceparent tracestate flags priority ∧
      ((flags = "01" ↔ 0 < priority.value) ↔ context.priority ≠ none) := by
  refine ⟨_, _, _, _, get?_traceparent_write h settings, get?_tracestate_write h settings,
    states_written context, ?_⟩
  rw [flagsText_eq_iff]
  cases hpriority : context.priority with
  | none =>
      exact iff_of_false (by decide) (not_not_intro rfl)
  | some priority =>
      exact iff_of_true decide_eq_true_iff (Option.some_ne_none priority)

def undecidedContext : SpanContext where
  traceId := .bits64 1
  spanId := 2

theorem written_decisions_agree_iff_undecided :
    Identified undecidedContext ∧
    ∃ traceparent tracestate flags priority,
      Headers.get? ⟨(write {} undecidedContext).value⟩ traceparentHeader = some traceparent ∧
      Headers.get? ⟨(write {} undecidedContext).value⟩ tracestateHeader = some tracestate ∧
      States traceparent tracestate flags priority ∧
      ((flags = "01" ↔ 0 < priority.value) ↔ undecidedContext.priority ≠ none) :=
  have hidentified : Identified undecidedContext := ⟨by decide, by decide⟩
  ⟨hidentified, written_decisions_agree_iff {} hidentified⟩

theorem not_written_decisions_agree :
    ¬ ∀ (settings : Settings) (context : SpanContext) (traceparent tracestate flags : String)
        (priority : SamplingPriority),
      Identified context →
      Headers.get? ⟨(write settings context).value⟩ traceparentHeader = some traceparent →
      Headers.get? ⟨(write settings context).value⟩ tracestateHeader = some tracestate →
      States traceparent tracestate flags priority → (flags = "01" ↔ 0 < priority.value) := by
  intro h
  have hidentified : Identified undecidedContext := ⟨by decide, by decide⟩
  have hsame := h {} undecidedContext _ _ _ _ hidentified (get?_traceparent_write hidentified {})
    (get?_tracestate_write hidentified {}) (states_written undecidedContext)
  exact absurd hsame (by decide)

end TraceHeaders.Format.TraceContext
