import TraceHeaders.Proofs.Format.Xray

namespace TraceHeaders.Format.Xray

open Text

theorem utf8ByteSize_identityText (context : SpanContext) :
    (identityText context).utf8ByteSize = 64 + (if context.priority.isSome then 10 else 0) +
      context.origin.elim 0 fun origin => 12 + origin.utf8ByteSize := by
  have hroot : ("Root=" ++ rootStart).utf8ByteSize = 24 := by decide
  have hparent : ";Parent=".utf8ByteSize = 8 := by decide
  have horigin : (";" ++ originKey ++ "=").utf8ByteSize = 12 := by decide
  have hsampled : (context.priority.elim "" fun priority =>
      if priority.isKeep then ";Sampled=1" else ";Sampled=0").utf8ByteSize =
        if context.priority.isSome then 10 else 0 := by
    have hone : ";Sampled=1".utf8ByteSize = 10 := by decide
    have hzero : ";Sampled=0".utf8ByteSize = 10 := by decide
    cases context.priority with
    | none => rfl
    | some priority =>
        rw [Option.elim_some, Option.isSome_some, if_pos rfl]
        split
        · exact hone
        · exact hzero
  rw [identityText, String.utf8ByteSize_append, String.utf8ByteSize_append,
    String.utf8ByteSize_append, String.utf8ByteSize_append, String.utf8ByteSize_append, hroot,
    hparent, utf8ByteSize_hexPadded, utf8ByteSize_hexPadded, hsampled]
  cases context.origin with
  | none => rfl
  | some origin => rw [Option.elim_some, Option.elim_some, String.utf8ByteSize_append, horigin]

/-- Adding a baggage item neither breaks the limit nor restores it. -/
theorem fits_addBaggage_iff (settings : Settings) (written : List Header × String)
    (item : String × String) :
    (addBaggage settings written item).value.2.utf8ByteSize ≤ headerLimit ↔
      written.2.utf8ByteSize ≤ headerLimit := by
  rw [addBaggage]
  cases settings.baggageHeader? item.1 with
  | some name => exact Iff.rfl
  | none =>
      dsimp only
      split
      · exact Iff.rfl
      · rename_i hroom
        rw [Logged.value_pure, String.utf8ByteSize_append]
        omega

theorem fits_foldlM_addBaggage_iff (settings : Settings) (items : List (String × String))
    (written : List Header × String) :
    (items.foldlM (addBaggage settings) written).value.2.utf8ByteSize ≤ headerLimit ↔
      written.2.utf8ByteSize ≤ headerLimit := by
  induction items generalizing written with
  | nil => exact Iff.rfl
  | cons item items ih =>
      rw [List.foldlM_cons, Logged.value_bind, ih, fits_addBaggage_iff]

/-- An origin that leaves the members of the identity within the limit. -/
def OriginFits (context : SpanContext) : Prop :=
  ∀ origin, context.origin = some origin →
    origin.utf8ByteSize ≤ if context.priority.isSome then 170 else 180

theorem fits_identityText_iff (context : SpanContext) :
    (identityText context).utf8ByteSize ≤ headerLimit ↔ OriginFits context := by
  rw [utf8ByteSize_identityText, OriginFits, headerLimit]
  cases context.origin with
  | none =>
      refine iff_of_true ?_ fun origin horigin => absurd horigin (Option.some_ne_none origin).symm
      rw [Option.elim_none]
      split <;> decide
  | some origin =>
      simp only [Option.elim_some, Option.some.injEq, forall_eq']
      split <;> omega

/-- The baggage that settings send to a header of the very same name, each item on its own, fits it. -/
def NamesakesFit (settings : Settings) (context : SpanContext) : Prop :=
  ∀ item ∈ context.baggage.toList, ∀ name, settings.baggageHeader? item.1 = some name →
    sameIgnoringCase name "X-Amzn-Trace-Id" = true → (encodeForm item.2).utf8ByteSize ≤ 256

theorem fits_mappedHeaders_iff (settings : Settings) (context : SpanContext) :
    (∀ written ∈ context.baggage.toList.filterMap (mappedHeader? settings),
      written.isNamed "X-Amzn-Trace-Id" = true → written.value.utf8ByteSize ≤ 256) ↔
    NamesakesFit settings context := by
  constructor
  · intro h item hitem name hname hnamed
    have hmapped : mappedHeader? settings item = some ⟨name, encodeForm item.2⟩ := by
      rw [mappedHeader?, hname, Option.map_some]
    exact h _ (List.mem_filterMap.mpr ⟨item, hitem, hmapped⟩) hnamed
  · intro h written hwritten hnamed
    obtain ⟨item, hitem, hmapped⟩ := List.mem_filterMap.mp hwritten
    obtain ⟨name, hname, rfl⟩ := Option.map_eq_some_iff.mp hmapped
    exact h item hitem name hname hnamed

/-- Whatever is written under the name of the header fits just when nothing is written, for want of a
trace, or else the origin fits and so does the baggage that is sent to the same header. -/
theorem written_fits_iff (settings : Settings) (context : SpanContext) :
    (∀ written ∈ (write settings context).value, written.isNamed "X-Amzn-Trace-Id" = true →
      written.value.utf8ByteSize ≤ 256) ↔
    context.traceId.isZero = true ∨ OriginFits context ∧ NamesakesFit settings context := by
  cases hzero : context.traceId.isZero with
  | true =>
      refine iff_of_true (fun written hwritten => ?_) (.inl rfl)
      rw [write, hzero] at hwritten
      exact absurd hwritten List.not_mem_nil
  | false =>
      have hown := (fits_foldlM_addBaggage_iff settings context.baggage.toList
        ([], identityText context)).trans (fits_identityText_iff context)
      rw [headerLimit] at hown
      rw [value_write_items settings hzero, headers_foldlM_addBaggage, List.nil_append,
        List.forall_mem_append, List.forall_mem_singleton, fits_mappedHeaders_iff, hown,
        and_comm]
      constructor
      · rintro ⟨horigin, hnamesakes⟩
        exact .inr ⟨horigin (Headers.isNamed_mk_self header _), hnamesakes⟩
      · rintro (hfalse | ⟨horigin, hnamesakes⟩)
        · exact absurd hfalse Bool.false_ne_true
        · exact ⟨fun _ => horigin, hnamesakes⟩

/-- A context whose origin alone is too long for the header. -/
def crowdedContext : SpanContext where
  traceId := .bits64 1
  spanId := 2
  origin := some (String.ofList (List.replicate 181 'x'))

theorem not_written_fits :
    ¬ ∀ (settings : Settings) (context : SpanContext),
      ∀ written ∈ (write settings context).value, written.isNamed "X-Amzn-Trace-Id" = true →
        written.value.utf8ByteSize ≤ 256 := by
  intro h
  have hwritten : (write {} crowdedContext).value = [⟨header, identityText crowdedContext⟩] := rfl
  have hsize : (identityText crowdedContext).utf8ByteSize = 257 := by decide +kernel
  have hfits := h {} crowdedContext _ (hwritten ▸ List.mem_singleton_self _)
    (Headers.isNamed_mk_self _ _)
  rw [hsize] at hfits
  exact absurd hfits (by decide)

end TraceHeaders.Format.Xray
