import TraceHeaders.Proofs.Format.TraceContext.Read

namespace TraceHeaders.Format.TraceContext

open Text

theorem utf8ByteSize_addPart_lt {content : String} (h : content.utf8ByteSize < memberLimit)
    (part : String) : (addPart content part).utf8ByteSize < memberLimit := by
  rw [addPart]
  split
  · rw [utf8ByteSize_glue]
    assumption
  · exact h

theorem utf8ByteSize_foldl_addPart_lt (parts : List String) {content : String}
    (h : content.utf8ByteSize < memberLimit) :
    (parts.foldl addPart content).utf8ByteSize < memberLimit := by
  induction parts generalizing content with
  | nil => exact h
  | cons part parts ih => exact ih (utf8ByteSize_addPart_lt h part)

theorem utf8ByteSize_memberContent_lt (context : SpanContext) :
    (memberContent context).utf8ByteSize < memberLimit := by
  apply utf8ByteSize_foldl_addPart_lt
  have hstart : "s:".utf8ByteSize = 2 := by decide
  have htext := (context.priority.getD .userKeep).utf8ByteSize_text_le
  rw [priorityPart, String.utf8ByteSize_append, memberLimit]
  omega

theorem equals_not_mem_tagPart {tag : String × String} {part : String} (h : tagPart? tag = some part) :
    '=' ∉ part.toList := by
  obtain ⟨key, _, _, rfl⟩ := tagPart?_eq_some_iff.mp h
  have hkey : '=' ∉ (mask isTagKeyChar key).toList := by
    intro hmem
    have hallowed : isTagKeyChar '=' = true := allowed_of_mem_mask (by decide) hmem
    exact absurd hallowed (by decide)
  simp only [String.toList_append, List.mem_append, not_or]
  exact ⟨⟨⟨by decide, hkey⟩, by decide⟩, equals_not_mem_maskValue tag.2⟩

theorem equals_not_mem_of_mem_otherParts {context : SpanContext} {part : String}
    (h : part ∈ otherParts context) : '=' ∉ part.toList := by
  rcases mem_otherParts h with ⟨origin, _, rfl⟩ | rfl | ⟨tag, _, htag⟩
  · rw [String.toList_append, List.mem_append, not_or]
    exact ⟨by decide, equals_not_mem_maskValue origin⟩
  · exact not_mem_parentPart_of (by decide) (by decide) context.spanId
  · exact equals_not_mem_tagPart htag

theorem equals_not_mem_memberContent (context : SpanContext) :
    '=' ∉ (memberContent context).toList := by
  rw [memberContent_eq]
  apply not_mem_intercalate (by decide)
  intro part hpart
  rcases List.mem_cons.mp hpart with rfl | hpart
  · exact not_mem_priorityPart_of (by decide) (by decide) context
  · exact equals_not_mem_of_mem_otherParts ((keptParts_sublist _ _).subset hpart)

theorem allowed_of_mem_memberContent {context : SpanContext} {c : Char}
    (hc : c ∈ (memberContent context).toList) :
    isPrintableAscii c = true ∧ c ≠ ',' ∧ c ≠ '=' := by
  have hpart := isPart_memberContent context
  refine ⟨hpart.printable c hc, ?_, ?_⟩
  · rintro rfl
    exact hpart.no_comma hc
  · rintro rfl
    exact equals_not_mem_memberContent context hc

/-- The parts that may follow the priority in the member: the origin, the span, and by its key every
propagated tag but the upper half of the trace identifier. -/
def candidates (context : SpanContext) : List String :=
  (context.origin.toList.map fun origin => "o:" ++ maskValue origin) ++
    ("p:" ++ hexPadded 16 context.spanId.toNat) ::
      (context.propagationTags.tags.toList.filter (·.1 ≠ "_dd.p.tid")).map fun tag =>
        "t." ++ mask isTagKeyChar (String.ofList (tag.1.toList.drop 6)) ++ ":" ++ maskValue tag.2

theorem tagPart?_eq {tag : String × String} (h : isPropagated tag.1 = true) :
    tagPart? tag =
      if tag.1 ≠ "_dd.p.tid" then
        some ("t." ++ mask isTagKeyChar (String.ofList (tag.1.toList.drop 6)) ++ ":" ++
          maskValue tag.2)
      else none := by
  obtain ⟨key, hkey⟩ := begins_iff.mp h
  have hafter : after? tagNamespace tag.1 = some key := after?_eq_some_iff.mpr hkey
  have hdrop : String.ofList (tag.1.toList.drop 6) = key := by
    rw [hkey, String.toList_append, List.drop_left' (by decide), String.ofList_toList]
  have hname : "_dd.p.tid" = tagNamespace ++ "tid" := rfl
  have htid : tag.1 = "_dd.p.tid" ↔ key = "tid" := by
    rw [hkey, hname]
    exact String.append_right_inj tagNamespace
  rw [tagPart?, hafter, hdrop, ite_not]
  exact ite_congr (propext htid.symm) (fun _ => rfl) fun _ => rfl

theorem otherParts_eq_candidates (context : SpanContext) :
    otherParts context = candidates context := by
  have htags : context.propagationTags.tags.toList.filterMap tagPart? =
      (context.propagationTags.tags.toList.filter (·.1 ≠ "_dd.p.tid")).map fun tag =>
        "t." ++ mask isTagKeyChar (String.ofList (tag.1.toList.drop 6)) ++ ":" ++
          maskValue tag.2 := by
    rw [← List.filterMap_eq_map, List.filterMap_filter]
    apply List.filterMap_congr
    intro tag htag
    rw [tagPart?_eq (context.propagationTags.propagated tag htag)]
    simp
  rw [otherParts, candidates, htags, List.append_assoc, List.singleton_append]
  cases context.origin <;> rfl

/-- A tracestate header within the limits of its format.  It starts with the one member of this vendor,
which lists whole parts, and the others are the first ones that came with the context, where blank
members and those of this vendor do not count. -/
structure IsWithinLimits (context : SpanContext) (tracestate : String) : Prop where
  count : (pieces ',' tracestate).length ≤ 32
  own_first : ∀ i member, (pieces ',' tracestate)[i]? = some member →
    (begins "dd=" member = true ↔ i = 0)
  own : ∃ content parts, (pieces ',' tracestate)[0]? = some ("dd=" ++ content) ∧
    (∀ c ∈ content.toList, isPrintableAscii c = true ∧ c ≠ ',' ∧ c ≠ '=') ∧
    content.utf8ByteSize ≤ 255 ∧
    content = ";".intercalate (("s:" ++ (context.priority.getD .userKeep).text) :: parts) ∧
    parts.Sublist (candidates context)
  others : (pieces ',' tracestate).tail = context.propagationTags.tracestate.elim [] fun stored =>
    (((pieces ',' stored).map trim).filter fun member =>
      member ≠ "" ∧ begins "dd=" member = false).take 31

theorem passedOn_eq (context : SpanContext) :
    passedOn context = context.propagationTags.tracestate.elim [] fun stored =>
      (((pieces ',' stored).map trim).filter fun member =>
        member ≠ "" ∧ begins "dd=" member = false).take 31 := by
  rw [passedOn]
  cases context.propagationTags.tracestate with
  | none => rfl
  | some stored =>
      refine congrArg (List.take 31) (List.filter_congr fun member _ => ?_)
      rw [Bool.eq_iff_iff, decide_eq_true_iff, Bool.and_eq_true, Bool.not_eq_true',
        Bool.not_eq_true', ← Bool.not_eq_true, String.isEmpty_iff]
      rfl

theorem length_passedOn_le (context : SpanContext) : (passedOn context).length ≤ 31 := by
  rw [passedOn]
  cases context.propagationTags.tracestate with
  | none => exact Nat.zero_le 31
  | some stored => exact List.length_take_le 31 _

theorem begins_iff_of_getElem?_pieces {context : SpanContext} {i : Nat} {member : String}
    (h : (pieces ',' (renderTraceState context))[i]? = some member) :
    begins "dd=" member = true ↔ i = 0 := by
  rw [pieces_renderTraceState] at h
  cases i with
  | zero =>
      rw [List.getElem?_cons_zero, Option.some_inj] at h
      exact iff_of_true (begins_iff.mpr ⟨_, h.symm⟩) rfl
  | succ i =>
      rw [List.getElem?_cons_succ] at h
      obtain ⟨stored, _, hforeign⟩ := mem_passedOn (List.mem_of_getElem? h)
      have hbegins : begins "dd=" member = false := (mem_foreignMembers hforeign).2
      rw [hbegins]
      exact iff_of_false Bool.false_ne_true (Nat.succ_ne_zero i)

/-- Whatever texts a context holds, the trace state that is written for it is within the limits. -/
theorem written_isWithinLimits (settings : Settings) {context : SpanContext}
    (h : Identified context) :
    ∃ tracestate, Headers.get? ⟨(write settings context).value⟩ tracestateHeader =
      some tracestate ∧ IsWithinLimits context tracestate := by
  have hpieces := pieces_renderTraceState context
  have hlength := length_passedOn_le context
  refine ⟨renderTraceState context, get?_tracestate_write h settings, ?_⟩
  constructor
  case count =>
    rw [hpieces, List.length_cons]
    omega
  case own_first =>
    intro i member hmember
    exact begins_iff_of_getElem?_pieces hmember
  case own =>
    refine ⟨memberContent context,
      keptParts (priorityPart context).utf8ByteSize (otherParts context), ?_,
      fun c => allowed_of_mem_memberContent, ?_, memberContent_eq context, ?_⟩
    · rw [hpieces]
      rfl
    · exact Nat.le_of_lt_succ (utf8ByteSize_memberContent_lt context)
    · rw [← otherParts_eq_candidates]
      exact keptParts_sublist _ _
  case others =>
    rw [hpieces, List.tail_cons, passedOn_eq]

/-- A context with reserved characters in its texts and a trace state with blank members and one of this
vendor. -/
def crowdedContext : SpanContext where
  traceId := .bits128 0x1234 0x5678
  spanId := 0x9a
  priority := some ⟨-1⟩
  origin := some "eu,1;ü=~"
  propagationTags :=
    { tags := ⟨[("_dd.p.a=b,c", "1=2;3"), ("_dd.p.dm", "-4"), ("_dd.p.tid", "1234")], by decide⟩
      tracestate := some " b=1 ,, dd=s:2, \t,c=é=,"
      propagated := by decide }

theorem written_isWithinLimits_crowded :
    Identified crowdedContext ∧
    (∃ tracestate, Headers.get? ⟨(write {} crowdedContext).value⟩ tracestateHeader =
      some tracestate ∧ IsWithinLimits crowdedContext tracestate) ∧
    renderTraceState crowdedContext =
      "dd=s:-1;o:eu_1__~_;p:000000000000009a;t.a_b_c:1~2_3;t.dm:-4,b=1,c=é=" :=
  have hidentified : Identified crowdedContext := ⟨by decide, by decide⟩
  ⟨hidentified, written_isWithinLimits {} hidentified, by decide +kernel⟩

end TraceHeaders.Format.TraceContext
