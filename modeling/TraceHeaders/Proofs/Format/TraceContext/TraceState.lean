import TraceHeaders.Proofs.Format.TraceContext.Member

namespace TraceHeaders.Format.TraceContext

open Text

theorem mem_foreignMembers {tracestate member : String} (h : member ∈ foreignMembers tracestate) :
    member ∈ members tracestate ∧ begins memberStart member = false := by
  have hfilter := List.mem_filter.mp ((List.take_sublist _ _).subset h)
  refine ⟨hfilter.1, ?_⟩
  have hkeep := hfilter.2
  rw [Bool.and_eq_true, Bool.not_eq_true', Bool.not_eq_true'] at hkeep
  exact hkeep.2

theorem trim_of_mem_members {s member : String} (h : member ∈ members s) : trim member = member := by
  obtain ⟨piece, _, rfl⟩ := List.mem_map.mp h
  exact trim_trim piece

theorem not_mem_of_mem_members {s member : String} (h : member ∈ members s) :
    ',' ∉ member.toList := by
  obtain ⟨piece, hpiece, rfl⟩ := List.mem_map.mp h
  exact fun hc => not_mem_of_mem_pieces hpiece (mem_of_mem_trim hc)

theorem mem_of_mem_members {s member : String} {c : Char} (h : member ∈ members s)
    (hc : c ∈ member.toList) : c ∈ s.toList := by
  obtain ⟨piece, hpiece, rfl⟩ := List.mem_map.mp h
  exact mem_of_mem_pieces hpiece (mem_of_mem_trim hc)

/-- The members of other vendors that are written. -/
def passedOn (context : SpanContext) : List String :=
  context.propagationTags.tracestate.elim [] foreignMembers

theorem mem_passedOn {context : SpanContext} {member : String} (h : member ∈ passedOn context) :
    ∃ tracestate, context.propagationTags.tracestate = some tracestate ∧
      member ∈ foreignMembers tracestate := by
  rw [passedOn] at h
  cases hstate : context.propagationTags.tracestate with
  | none => simp [hstate] at h
  | some tracestate => exact ⟨tracestate, rfl, by simpa [hstate] using h⟩

theorem trim_memberStart_append {content : String} (h : StartsSolid content.toList) :
    trim (memberStart ++ content) = memberStart ++ trim content := by
  have hstart : StartsSolid memberStart.toList := ⟨'d', ['d', '='], by decide, by decide⟩
  rw [trim, String.toList_append, trimChars_append hstart h, String.ofList_append,
    String.ofList_toList]
  rfl

theorem pieces_renderTraceState (context : SpanContext) :
    pieces ',' (renderTraceState context) =
      (memberStart ++ memberContent context) :: passedOn context := by
  have hfirst : ',' ∉ (memberStart ++ memberContent context).toList := by
    rw [String.toList_append, List.mem_append, not_or]
    exact ⟨by decide, (isPart_memberContent context).no_comma⟩
  apply pieces_intercalate (by decide) (List.cons_ne_nil _ _)
  intro member hmember
  rcases List.mem_cons.mp hmember with rfl | hmember
  · exact hfirst
  · obtain ⟨tracestate, _, hforeign⟩ := mem_passedOn hmember
    exact not_mem_of_mem_members (mem_foreignMembers hforeign).1

/-- The members that are read are the members that were written, less white space at the end of the
first one. -/
theorem members_renderTraceState (context : SpanContext) :
    members (renderTraceState context) =
      (memberStart ++ trim (memberContent context)) :: passedOn context := by
  have htrim : (passedOn context).map trim = passedOn context := by
    conv_rhs => rw [← List.map_id (passedOn context)]
    apply List.map_congr_left
    intro member hmember
    obtain ⟨tracestate, _, hforeign⟩ := mem_passedOn hmember
    exact trim_of_mem_members (mem_foreignMembers hforeign).1
  rw [members, pieces_renderTraceState, List.map_cons,
    trim_memberStart_append (isPart_memberContent context).solid, htrim]

theorem keep_foreignMembers (tracestate : String) :
    ((foreignMembers tracestate).filter fun member =>
      !member.isEmpty && !begins memberStart member).take foreignLimit =
        foreignMembers tracestate := by
  have hkept : (foreignMembers tracestate).filter
      (fun member => !member.isEmpty && !begins memberStart member) = foreignMembers tracestate := by
    rw [List.filter_eq_self]
    intro member hmember
    exact (List.mem_filter.mp ((List.take_sublist _ _).subset hmember)).2
  rw [hkept]
  apply List.take_of_length_le
  rw [foreignMembers, List.length_take]
  exact Nat.min_le_left _ _

theorem foreignMembers_renderTraceState (context : SpanContext) :
    foreignMembers (renderTraceState context) = passedOn context := by
  have hown : begins memberStart (memberStart ++ trim (memberContent context)) = true :=
    begins_iff.mpr ⟨_, rfl⟩
  rw [foreignMembers, members_renderTraceState, List.filter_cons_of_neg (by simp [hown]), passedOn]
  cases context.propagationTags.tracestate with
  | none => rfl
  | some tracestate => exact keep_foreignMembers tracestate

theorem isPrintable_of_passedOn {context : SpanContext}
    (h : ∀ member ∈ passedOn context, ∀ c ∈ member.toList, isPrintableAscii c = true) :
    TraceState.isPrintable (renderTraceState context) = true := by
  rw [TraceState.isPrintable, members_renderTraceState, List.all_eq_true]
  intro member hmember
  rw [List.all_eq_true]
  intro c hc
  rcases List.mem_cons.mp hmember with rfl | hmember
  · rw [String.toList_append, List.mem_append] at hc
    rcases hc with hc | hc
    · have hstart : memberStart.toList.all isPrintableAscii = true := by decide
      exact List.all_eq_true.mp hstart c hc
    · exact (isPart_memberContent context).printable c (mem_of_mem_trim hc)
  · exact h member hmember c hc

def HasPrintableState (context : SpanContext) : Prop :=
  ∀ tracestate, context.propagationTags.tracestate = some tracestate →
    ∀ c ∈ tracestate.toList, isPrintableAscii c = true

theorem isPrintable_renderTraceState {context : SpanContext} (h : HasPrintableState context) :
    TraceState.isPrintable (renderTraceState context) = true := by
  apply isPrintable_of_passedOn
  intro member hmember c hc
  obtain ⟨tracestate, hstate, hforeign⟩ := mem_passedOn hmember
  exact h tracestate hstate c (mem_of_mem_members (mem_foreignMembers hforeign).1 hc)

def partPairs (part : String) : List (String × String) := (pieces ';' part).filterMap (cut? ':')

theorem partPairs_eq {key value : String} (hkey : ';' ∉ key.toList ∧ ':' ∉ key.toList)
    (hvalue : ';' ∉ value.toList) : partPairs (key ++ ":" ++ value) = [(key, value)] := by
  have hsemicolon : ';' ∉ (key ++ ":" ++ value).toList := by
    simp only [String.toList_append, List.mem_append, not_or]
    exact ⟨⟨hkey.1, by decide⟩, hvalue⟩
  have hcut : cut? ':' (key ++ ":" ++ value) = some (key, value) :=
    cut?_append (by decide) hkey.2 value
  rw [partPairs, pieces_eq_singleton hsemicolon, List.filterMap_cons_some hcut, List.filterMap_nil]

theorem not_mem_maskValue (s : String) : ';' ∉ (maskValue s).toList :=
  fun h => (isValueChar_of_mem_maskValue h).2.2 rfl

theorem not_mem_priorityPart_of {d : Char} (hother : d ∉ ['s', ':', '-'])
    (hhex : isLowerHex d = false) (context : SpanContext) :
    d ∉ (priorityPart context).toList := by
  have hstart : "s:".toList ⊆ ['s', ':', '-'] := by decide
  rw [priorityPart, String.toList_append, List.mem_append, not_or]
  refine ⟨fun h => hother (hstart h), fun h => ?_⟩
  rcases SamplingPriority.mem_text h with rfl | h
  · exact hother (by decide)
  · exact absurd rfl (ne_of_isLowerHex h hhex)

theorem not_mem_priorityPart (context : SpanContext) : ';' ∉ (priorityPart context).toList :=
  not_mem_priorityPart_of (by decide) (by decide) context

theorem partPairs_priority (context : SpanContext) :
    partPairs (priorityPart context) = [("s", (context.priority.getD .userKeep).text)] := by
  have hsplit : priorityPart context = "s" ++ ":" ++ (context.priority.getD .userKeep).text := by
    rw [priorityPart]
    rfl
  rw [hsplit]
  refine partPairs_eq (by decide) fun h => not_mem_priorityPart context ?_
  rw [priorityPart, String.toList_append]
  exact List.mem_append_right _ h

theorem trim_priorityPart (context : SpanContext) :
    trim (priorityPart context) = priorityPart context := by
  apply trim_eq_self (isPart_priorityPart context).solid
  rw [priorityPart, String.toList_append]
  exact (endsSolid_of_all (SamplingPriority.text_ne_nil _) fun _ =>
    SamplingPriority.isBlank_eq_false_of_mem_text).append_left _

theorem partPairs_origin {value : String} (h : ';' ∉ value.toList) :
    partPairs ("o:" ++ value) = [("o", value)] := by
  have hsplit : "o:" ++ value = "o" ++ ":" ++ value := rfl
  rw [hsplit]
  exact partPairs_eq (by decide) h

theorem not_mem_parentPart_of {d : Char} (hother : d ∉ ['p', ':'])
    (hhex : isLowerHex d = false) (spanId : UInt64) :
    d ∉ ("p:" ++ hexPadded 16 spanId.toNat).toList := by
  rw [String.toList_append, List.mem_append, not_or]
  exact ⟨hother, fun h => absurd rfl (ne_of_isLowerHex (isLowerHex_of_mem_hexPadded h) hhex)⟩

theorem not_mem_parentPart (spanId : UInt64) :
    ';' ∉ ("p:" ++ hexPadded 16 spanId.toNat).toList :=
  not_mem_parentPart_of (by decide) (by decide) spanId

theorem partPairs_parent (spanId : UInt64) :
    partPairs ("p:" ++ hexPadded 16 spanId.toNat) = [("p", hexPadded 16 spanId.toNat)] := by
  have hsplit : "p:" ++ hexPadded 16 spanId.toNat = "p" ++ ":" ++ hexPadded 16 spanId.toNat := rfl
  rw [hsplit]
  refine partPairs_eq (by decide) fun h => not_mem_parentPart spanId ?_
  rw [String.toList_append]
  exact List.mem_append_right _ h

theorem trim_parentPart (spanId : UInt64) :
    trim ("p:" ++ hexPadded 16 spanId.toNat) = "p:" ++ hexPadded 16 spanId.toNat := by
  have hne : hexWord 16 spanId.toNat ≠ [] := by
    rw [← List.length_pos_iff, hexWord_length]
    decide
  have hstart : StartsSolid "p:".toList := ⟨'p', [':'], by decide, by decide⟩
  apply trim_eq_self
  · rw [String.toList_append]
    exact hstart.append _
  · rw [String.toList_append, toList_hexPadded]
    exact (endsSolid_of_all hne fun _ hc =>
      isBlank_eq_false_of_isLowerHex (isLowerHex_of_mem_hexWord hc)).append_left _

/-- The pairs of the member that is written.  White space at its end is lost. -/
def memberPairs (context : SpanContext) : List (String × String) :=
  (trimLast (memberParts context)).flatMap partPairs

theorem pairs_member (context : SpanContext) :
    TraceState.pairs (memberStart ++ trim (memberContent context)) = memberPairs context := by
  have hne : trimLast (memberParts context) ≠ [] := trimLast_ne_nil (List.cons_ne_nil _ _)
  simp only [TraceState.pairs, after?_append, trim_trim]
  rw [memberContent_eq, trim_intercalate ";" fun part hpart => (isPart_of_mem_memberParts hpart).solid,
    pieces_intercalate_eq_flatMap (by decide) hne, List.filterMap_flatMap]
  rfl

theorem parse?_renderTraceState {context : SpanContext} (h : HasPrintableState context) :
    TraceState.parse? (renderTraceState context) =
      some ((memberPairs context).foldl TraceState.add {}) := by
  have hforeign : (passedOn context).flatMap TraceState.pairs = [] := by
    rw [List.flatMap_eq_nil_iff]
    intro member hmember
    obtain ⟨tracestate, _, hforeign⟩ := mem_passedOn hmember
    rw [TraceState.pairs, after?_eq_none_iff.mpr (mem_foreignMembers hforeign).2]
  rw [TraceState.parse?, if_pos (isPrintable_renderTraceState h), members_renderTraceState,
    List.flatMap_cons, pairs_member, hforeign, List.append_nil]

namespace TraceState

def tagOf? (pair : String × String) : Option (String × String) :=
  (after? tagStart pair.1).map fun tag => (tagNamespace ++ tag, unmask pair.2)

theorem tagOf?_eq_none {key : String} (h : after? tagStart key = none) (value : String) :
    tagOf? (key, value) = none := by
  rw [tagOf?, h, Option.map_none]

theorem add_eq (state : TraceState) (pair : String × String) :
    state.add pair =
      { priority := if pair.1 = "s" then SamplingPriority.parse? pair.2 else state.priority
        origin := if pair.1 = "o" then some (unmask pair.2) else state.origin
        parentId := if pair.1 = "p" then some pair.2 else state.parentId
        tags := state.tags ++ (tagOf? pair).toList } := by
  obtain ⟨key, value⟩ := pair
  have hs : after? tagStart "s" = none := by decide
  have ho : after? tagStart "o" = none := by decide
  have hp : after? tagStart "p" = none := by decide
  unfold add
  split
  · rename_i hkey
    subst hkey
    simp [tagOf?, hs]
  · rename_i hkey
    subst hkey
    simp [tagOf?, ho]
  · rename_i hkey
    subst hkey
    simp [tagOf?, hp]
  · rename_i hnot_s hnot_o hnot_p
    rw [if_neg fun h => hnot_s h, if_neg fun h => hnot_o h, if_neg fun h => hnot_p h]
    cases htag : after? tagStart key <;> simp [tagOf?, htag]

theorem getD_lastOf?_cons {α : Type} (key : String) (f : String → α) (older : α)
    (pair : String × String) (pairs : List (String × String)) :
    ((lastOf? key (pair :: pairs)).map f).getD older =
      ((lastOf? key pairs).map f).getD (if pair.1 = key then f pair.2 else older) := by
  rw [lastOf?_cons]
  cases lastOf? key pairs with
  | some value => rfl
  | none => split <;> rfl

theorem foldl_add_from (pairs : List (String × String)) (state : TraceState) :
    pairs.foldl add state =
      { priority := ((lastOf? "s" pairs).map SamplingPriority.parse?).getD state.priority
        origin := ((lastOf? "o" pairs).map fun value => some (unmask value)).getD state.origin
        parentId := ((lastOf? "p" pairs).map some).getD state.parentId
        tags := state.tags ++ pairs.filterMap tagOf? } := by
  induction pairs generalizing state with
  | nil => simp
  | cons pair pairs ih =>
      rw [List.foldl_cons, ih, add_eq, TraceState.mk.injEq]
      refine ⟨?_, ?_, ?_, ?_⟩
      · exact (getD_lastOf?_cons "s" _ state.priority pair pairs).symm
      · exact (getD_lastOf?_cons "o" _ state.origin pair pairs).symm
      · exact (getD_lastOf?_cons "p" _ state.parentId pair pairs).symm
      · rw [List.append_assoc]
        cases htag : tagOf? pair with
        | none => rw [List.filterMap_cons_none htag, Option.toList_none, List.nil_append]
        | some tag =>
            rw [List.filterMap_cons_some htag, Option.toList_some, List.singleton_append]

/-- All pairs together: the last one of each key counts, and every tag is kept. -/
theorem foldl_add (pairs : List (String × String)) :
    pairs.foldl add {} =
      { priority := (lastOf? "s" pairs).bind SamplingPriority.parse?
        origin := (lastOf? "o" pairs).map unmask
        parentId := lastOf? "p" pairs
        tags := pairs.filterMap tagOf? } := by
  rw [foldl_add_from, TraceState.mk.injEq]
  refine ⟨?_, ?_, ?_, List.nil_append _⟩
  · cases lastOf? "s" pairs <;> rfl
  · cases lastOf? "o" pairs <;> rfl
  · cases lastOf? "p" pairs <;> rfl

end TraceState

end TraceHeaders.Format.TraceContext
