import TraceHeaders.Proofs.Format.TraceContext.Read
import TraceHeaders.Proofs.SideData

namespace TraceHeaders.Format.TraceContext

open Text

/-- A tag whose key and value stand for themselves inside the member.  The member is trimmed, so a
value must not end in a blank. -/
structure IsPlainTag (key value : String) : Prop where
  key_allowed : ∀ c ∈ key.toList, isTagKeyChar c = true ∧ c ≠ ';' ∧ c ≠ ':'
  value_allowed : ∀ c ∈ value.toList, isValueChar c = true
  value_end : value.toList.getLast? ≠ some ' '

theorem isPlainTag_iff {key value : String} :
    IsPlainTag key value ↔
      (key.toList.all fun c => isTagKeyChar c && (c != ';' && c != ':')) = true ∧
        value.toList.all isValueChar = true ∧ value.toList.getLast? ≠ some ' ' := by
  simp only [List.all_eq_true, Bool.and_eq_true, bne_iff_ne]
  constructor
  · rintro ⟨hkey, hvalue, hend⟩
    exact ⟨hkey, hvalue, hend⟩
  · rintro ⟨hkey, hvalue, hend⟩
    exact ⟨hkey, hvalue, hend⟩

instance (key value : String) : Decidable (IsPlainTag key value) :=
  decidable_of_iff _ isPlainTag_iff.symm

/-- A context with a decision that the format can hold in full. -/
structure IsExpressible (context : SpanContext) (priority : SamplingPriority) : Prop where
  identified : Identified context
  decided : context.priority = some priority
  origin_allowed : ∀ origin, context.origin = some origin →
    ∀ c ∈ origin.toList, isValueChar c = true
  state_printable : HasPrintableState context
  tags_plain : ∀ key value, (tagNamespace ++ key, value) ∈ context.propagationTags.tags.toList →
    IsPlainTag key value
  fits : (";".intercalate (priorityPart context :: otherParts context)).utf8ByteSize < memberLimit
  no_baggage : context.baggage = ∅

theorem maskValue_eq_swap {s : String} (h : ∀ c ∈ s.toList, isValueChar c = true) :
    maskValue s = swap '=' '~' s := by
  rw [maskValue, mask_eq_self h]

theorem endsSolid_maskValue {s : String} (hallowed : ∀ c ∈ s.toList, isValueChar c = true)
    (hend : s.toList.getLast? ≠ some ' ') : EndsSolid (":" ++ maskValue s).toList := by
  rw [maskValue_eq_swap hallowed, swap, String.toList_append, String.toList_ofList]
  rcases List.eq_nil_or_concat s.toList with hnil | ⟨cs, c, hcs⟩
  · rw [hnil]
    exact ⟨':', [], by decide, by decide⟩
  · have hc : isPrintableAscii c = true ∧ c ≠ ' ' := by
      have hvalue := hallowed c (by simp [hcs])
      simp only [isValueChar, Bool.and_eq_true] at hvalue
      refine ⟨hvalue.1.1.1, ?_⟩
      rintro rfl
      exact hend (by simp [hcs])
    refine EndsSolid.append_left ⟨if c = '=' then '~' else c, ?_, ?_, ?_⟩ _
    · exact ((cs.map fun c => if c = '=' then '~' else c)).reverse
    · simp [hcs]
    · split
      · decide
      · exact isBlank_eq_false_of_isPrintableAscii hc.1 hc.2

theorem tagPart_of_isPlainTag {key value : String} (h : IsPlainTag key value)
    (hne : key ≠ "tid") :
    ∃ part, tagPart? (tagNamespace ++ key, value) = some part ∧ trim part = part ∧
      partPairs part = [(tagStart ++ key, maskValue value)] := by
  have hmask : mask isTagKeyChar key = key := mask_eq_self fun c hc => (h.key_allowed c hc).1
  have hpart : tagPart? (tagNamespace ++ key, value) =
      some (tagStart ++ key ++ ":" ++ maskValue value) := by
    rw [tagPart?_eq_some_iff]
    exact ⟨key, rfl, hne, by rw [hmask]⟩
  refine ⟨_, hpart, ?_, ?_⟩
  · apply trim_eq_self (isPart_tagPart hpart).solid
    rw [String.append_assoc, String.toList_append]
    exact (endsSolid_maskValue h.value_allowed h.value_end).append_left _
  · have hkey (d : Char) (hstart : d ∉ tagStart.toList) (hne : d ∉ key.toList) :
        d ∉ (tagStart ++ key).toList := by
      rw [String.toList_append, List.mem_append, not_or]
      exact ⟨hstart, hne⟩
    refine partPairs_eq ⟨hkey ';' (by decide) fun hc => ?_, hkey ':' (by decide) fun hc => ?_⟩
      (not_mem_maskValue value)
    · exact (h.key_allowed ';' hc).2.1 rfl
    · exact (h.key_allowed ':' hc).2.2 rfl

theorem tagPart?_tid (value : String) : tagPart? (upperBitsTag, value) = none := by
  have hkey : after? tagNamespace upperBitsTag = some "tid" := by decide
  rw [tagPart?, hkey]
  rfl

theorem tagOf?_tagParts {entries : List (String × String)}
    (hpropagated : ∀ entry ∈ entries, isPropagated entry.1 = true)
    (hplain : ∀ key value, (tagNamespace ++ key, value) ∈ entries → IsPlainTag key value) :
    ((entries.filterMap tagPart?).flatMap partPairs).filterMap TraceState.tagOf? =
      entries.filter (·.1 != upperBitsTag) := by
  induction entries with
  | nil => rfl
  | cons entry entries ih =>
      have ih := ih (fun other hother => hpropagated other (List.mem_cons_of_mem entry hother))
        fun key value hmem => hplain key value (List.mem_cons_of_mem entry hmem)
      obtain ⟨key, hkey⟩ := begins_iff.mp (hpropagated entry List.mem_cons_self)
      obtain ⟨name, value⟩ := entry
      subst hkey
      by_cases htid : key = "tid"
      · subst htid
        have htag : tagNamespace ++ "tid" = upperBitsTag := rfl
        rw [htag, List.filterMap_cons_none (tagPart?_tid value), ih,
          List.filter_cons_of_neg (by simp)]
      · have hplainTag := hplain key value List.mem_cons_self
        obtain ⟨part, hpart, _, hpairs⟩ := tagPart_of_isPlainTag hplainTag htid
        have hne : tagNamespace ++ key ≠ upperBitsTag := by
          intro heq
          have htag : tagNamespace ++ key = tagNamespace ++ "tid" := heq
          exact htid ((String.append_right_inj tagNamespace).mp htag)
        have hread : TraceState.tagOf? (tagStart ++ key, maskValue value) =
            some (tagNamespace ++ key, value) := by
          rw [TraceState.tagOf?, after?_append, Option.map_some, unmask_maskValue,
            mask_eq_self hplainTag.value_allowed]
        rw [List.filterMap_cons_some hpart, List.flatMap_cons, hpairs, List.singleton_append,
          List.filterMap_cons_some hread, ih, List.filter_cons_of_pos (by simpa using hne)]

theorem key_of_mem_tagParts {entries : List (String × String)} {pair : String × String}
    (hplain : ∀ key value, (tagNamespace ++ key, value) ∈ entries → IsPlainTag key value)
    (h : pair ∈ (entries.filterMap tagPart?).flatMap partPairs) :
    ∃ key, pair.1 = tagStart ++ key := by
  obtain ⟨part, hpart, hpair⟩ := List.mem_flatMap.mp h
  obtain ⟨⟨name, value⟩, hentry, htag⟩ := List.mem_filterMap.mp hpart
  obtain ⟨key, rfl, hne, _⟩ := tagPart?_eq_some_iff.mp htag
  obtain ⟨part', hpart', _, hpairs⟩ := tagPart_of_isPlainTag (hplain key value hentry) hne
  rw [htag, Option.some_inj] at hpart'
  rw [hpart', hpairs, List.mem_singleton] at hpair
  exact ⟨key, congrArg Prod.fst hpair⟩

def tagPairs (tags : PropagationTags) : List (String × String) :=
  (tags.tags.toList.filterMap tagPart?).flatMap partPairs

namespace IsExpressible

variable {context : SpanContext} {priority : SamplingPriority}

theorem trim_tagPart (h : IsExpressible context priority) {part : String}
    (hpart : part ∈ context.propagationTags.tags.toList.filterMap tagPart?) :
    trim part = part := by
  obtain ⟨⟨name, value⟩, hentry, htag⟩ := List.mem_filterMap.mp hpart
  obtain ⟨key, rfl, hne, _⟩ := tagPart?_eq_some_iff.mp htag
  obtain ⟨part', hpart', htrim, _⟩ := tagPart_of_isPlainTag (h.tags_plain key value hentry) hne
  rw [htag, Option.some_inj] at hpart'
  rw [hpart', htrim]

theorem memberPairs_eq (h : IsExpressible context priority) :
    memberPairs context = ("s", priority.text) ::
      ((context.origin.map fun origin => ("o", maskValue origin)).toList ++
        ("p", hexPadded 16 context.spanId.toNat) :: tagPairs context.propagationTags) := by
  have hparts : memberParts context =
      (priorityPart context :: (context.origin.map fun origin => "o:" ++ maskValue origin).toList) ++
        (("p:" ++ hexPadded 16 context.spanId.toNat) ::
          context.propagationTags.tags.toList.filterMap tagPart?) := by
    rw [memberParts, keptParts_eq_self _ _ h.fits, otherParts, List.append_assoc,
      List.singleton_append, List.cons_append]
  have htrim : ∀ part ∈ ("p:" ++ hexPadded 16 context.spanId.toNat) ::
      context.propagationTags.tags.toList.filterMap tagPart?, trim part = part := by
    intro part hpart
    rcases List.mem_cons.mp hpart with rfl | hpart
    · exact trim_parentPart context.spanId
    · exact h.trim_tagPart hpart
  rw [memberPairs, hparts, trimLast_append _ (List.cons_ne_nil _ _), trimLast_eq_self htrim,
    List.flatMap_append, List.flatMap_cons, List.flatMap_cons, partPairs_priority,
    partPairs_parent, h.decided, Option.getD_some]
  cases context.origin with
  | none => rfl
  | some origin =>
      rw [Option.map_some, Option.toList_some, List.flatMap_singleton,
        partPairs_origin (not_mem_maskValue origin)]
      rfl

theorem lastOf?_tagPairs (h : IsExpressible context priority) {key : String}
    (hkey : after? tagStart key = none) :
    lastOf? key (tagPairs context.propagationTags) = none := by
  apply lastOf?_eq_none
  intro pair hpair heq
  obtain ⟨rest, hrest⟩ := key_of_mem_tagParts h.tags_plain hpair
  rw [← heq, hrest, after?_append] at hkey
  exact absurd hkey (Option.some_ne_none rest)

theorem parse?_renderTraceState (h : IsExpressible context priority) :
    TraceState.parse? (renderTraceState context) =
      some { priority := some priority
             origin := context.origin
             parentId := some (hexPadded 16 context.spanId.toNat)
             tags := (context.propagationTags.tags.erase upperBitsTag).toList } := by
  have hs : lastOf? "s" (tagPairs context.propagationTags) = none := h.lastOf?_tagPairs (by decide)
  have ho : lastOf? "o" (tagPairs context.propagationTags) = none := h.lastOf?_tagPairs (by decide)
  have hp : lastOf? "p" (tagPairs context.propagationTags) = none := h.lastOf?_tagPairs (by decide)
  have htags : (tagPairs context.propagationTags).filterMap TraceState.tagOf? =
      (context.propagationTags.tags.erase upperBitsTag).toList :=
    tagOf?_tagParts context.propagationTags.propagated h.tags_plain
  have horigin : ∀ origin, context.origin = some origin →
      TraceState.unmask (maskValue origin) = origin := by
    intro origin hsome
    rw [unmask_maskValue, mask_eq_self (h.origin_allowed origin hsome)]
  have hsTag := TraceState.tagOf?_eq_none (by decide : after? tagStart "s" = none)
  have hoTag := TraceState.tagOf?_eq_none (by decide : after? tagStart "o" = none)
  have hpTag := TraceState.tagOf?_eq_none (by decide : after? tagStart "p" = none)
  rw [TraceContext.parse?_renderTraceState h.state_printable, h.memberPairs_eq,
    TraceState.foldl_add, Option.some_inj, TraceState.mk.injEq]
  cases hcase : context.origin with
  | none =>
      simp [lastOf?_cons, hs, ho, hp, hsTag, hpTag, htags]
  | some origin =>
      simp [lastOf?_cons, hs, ho, hp, hsTag, hoTag, hpTag, htags,
        horigin origin hcase]

theorem value_readState_write (h : IsExpressible context priority) (settings : Settings) :
    (readState ⟨(write settings context).value⟩).value =
      some (renderTraceState context,
        { priority := some priority
          origin := context.origin
          parentId := some (hexPadded 16 context.spanId.toNat)
          tags := (context.propagationTags.tags.erase upperBitsTag).toList }) := by
  rw [value_readState, get?_tracestate_write h.identified, Option.bind_some,
    h.parse?_renderTraceState, Option.map_some]

theorem value_collect_write (h : IsExpressible context priority) {settings : Settings}
    (hbaggage : settings.baggageKeys = ∅) (htags : settings.headerTags = ∅) :
    (SideData.collect settings (some openTracingStart)
      ⟨(write settings context).value⟩).value = {} := by
  have hnames : ∀ name ∈ [traceparentHeader, tracestateHeader],
      after? openTracingStart (lowerAscii name) = none ∧
        ClientHeader.ofName? (lowerAscii name) = none := by decide
  apply SideData.value_collect_eq_empty
  intro header hheader
  have hname : header.name ∈ [traceparentHeader, tracestateHeader] := by
    rw [value_write h.identified, h.no_baggage, List.mem_append] at hheader
    rcases hheader with hheader | hheader
    · exact List.mem_map_of_mem (f := Header.name) hheader
    · exact absurd hheader List.not_mem_nil
  obtain ⟨hstart, hclient⟩ := hnames header.name hname
  simp only [SideData.add, SideData.addTag, SideData.addBaggage, SideData.addClientHeader,
    SideData.baggageKey?, ClientHeaders.record, Header.lowerName, htags, hbaggage, hstart, hclient,
    TextMap.get?_empty, Option.bind_some, Option.filter_none, Logged.value_bind,
    Logged.value_pure]

end IsExpressible

/-- A context that the format can hold in full is read back from the headers that are written for it:
the number of the trace in 128 bits, the span, the decision, the origin and every propagated tag but
the upper half of the trace identifier.  The trace state that is kept is the header itself. -/
theorem read_write (settings : Settings) (hbaggage : settings.baggageKeys = ∅)
    (htags : settings.headerTags = ∅) {context : SpanContext} {priority : SamplingPriority}
    (h : IsExpressible context priority) :
    ∃ tracestate, Headers.get? ⟨(write settings context).value⟩ tracestateHeader =
      some tracestate ∧
    (read settings ⟨(write settings context).value⟩).outcome =
      .ok (.full
        { traceId := .bits128 context.traceId.upper context.traceId.lower
          spanId := context.spanId
          priority := some priority
          mechanism :=
            (context.propagationTags.get? decisionMakerTag).bind SamplingMechanism.parse?
          origin := context.origin
          tags := TextMap.ofList [(parentIdTag, hexPadded 16 context.spanId.toNat)]
          propagationTags :=
            (context.propagationTags.erase upperBitsTag).setTracestate (some tracestate)
          style := some .traceContext
          isRemote := true }) := by
  refine ⟨renderTraceState context, get?_tracestate_write h.identified settings, ?_⟩
  have hsampled : context.priority.any (·.isKeep) = priority.isKeep := by
    rw [h.decided, Option.any_some]
  have hread : PropagationTags.ofList (context.propagationTags.tags.erase upperBitsTag).toList =
      (context.propagationTags.erase upperBitsTag).setTracestate none :=
    PropagationTags.ofList_tags (context.propagationTags.erase upperBitsTag)
  have hmaker : ((context.propagationTags.erase upperBitsTag).setTracestate
      (some (renderTraceState context))).get? decisionMakerTag =
        context.propagationTags.get? decisionMakerTag := by
    have hne : ¬ decisionMakerTag = upperBitsTag := by decide
    exact (TextMap.get?_erase _ _ _).trans (if_neg hne)
  rw [outcome_read_written settings h.identified (get?_traceparent_write h.identified settings),
    h.value_collect_write hbaggage htags, SideData.complete_empty, h.value_readState_write,
    hsampled, stateContext]
  simp only [hread, resolvePriority_isKeep]
  rw [← hmaker]
  rfl

/-- A rejected trace of another vendor, with an equals sign in the origin and in a tag. -/
def rejectedContext : SpanContext where
  traceId := .bits128 0x1234 0x5678
  spanId := 0x9a
  priority := some ⟨-1⟩
  origin := some "lambda=eu: 1"
  propagationTags :=
    { tags := ⟨[("_dd.p.dm", "-4"), ("_dd.p.tid", "1234"), ("_dd.p.usr", "id=7:a")], by decide⟩
      tracestate := some "vendor=1, dd=s:2"
      propagated := by decide }

theorem isExpressible_rejectedContext : IsExpressible rejectedContext ⟨-1⟩ where
  identified := ⟨by decide, by decide⟩
  decided := rfl
  origin_allowed := by
    intro origin h
    cases h
    rw [← List.all_eq_true]
    decide
  state_printable := by
    intro tracestate h
    cases h
    rw [← List.all_eq_true]
    decide
  tags_plain := by
    have hall : ∀ tag ∈ rejectedContext.propagationTags.tags.toList,
        ∀ key ∈ after? tagNamespace tag.1, IsPlainTag key tag.2 := by decide
    intro key value hmem
    exact hall _ hmem key (after?_append tagNamespace key)
  fits := by decide
  no_baggage := rfl

theorem read_write_rejected :
    IsExpressible rejectedContext ⟨-1⟩ ∧
    ∃ tracestate, Headers.get? ⟨(write {} rejectedContext).value⟩ tracestateHeader =
      some tracestate ∧
    (read {} ⟨(write {} rejectedContext).value⟩).outcome =
      .ok (.full
        { traceId := .bits128 0x1234 0x5678
          spanId := 0x9a
          priority := some ⟨-1⟩
          mechanism := some ⟨4⟩
          origin := some "lambda=eu: 1"
          tags := TextMap.ofList [(parentIdTag, "000000000000009a")]
          propagationTags :=
            { tags := ⟨[("_dd.p.dm", "-4"), ("_dd.p.usr", "id=7:a")], by decide⟩
              tracestate := some tracestate
              propagated := by decide }
          style := some .traceContext
          isRemote := true }) :=
  ⟨isExpressible_rejectedContext, read_write {} rfl rfl isExpressible_rejectedContext⟩

end TraceHeaders.Format.TraceContext
