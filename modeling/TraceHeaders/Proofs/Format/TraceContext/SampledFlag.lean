import TraceHeaders.Proofs.Format.TraceContext.Read

namespace TraceHeaders.Format.TraceContext

open Text

/-- Every member is printable, apart from white space around it. -/
def HasPrintableMembers (tracestate : String) : Prop :=
  ∀ member ∈ pieces ',' tracestate, ∀ c ∈ (trim member).toList, 0x20 ≤ c.toNat ∧ c.toNat ≤ 0x7E

/-- The entries of this vendor's members, one member after another. -/
def statedEntries (tracestate : String) : List (String × String) :=
  ((pieces ',' tracestate).filterMap fun member => after? "dd=" (trim member)).flatMap
    fun content => (pieces ';' (trim content)).filterMap (cut? ':')

/-- The decision in the last entry for one, if this entry can be read. -/
def statedPriority? (tracestate : String) : Option SamplingPriority :=
  (lastOf? "s" (statedEntries tracestate)).bind SamplingPriority.parse?

/-- The value of a propagated tag in the last entry for it. -/
def statedTag? (tracestate key : String) : Option String :=
  (after? "_dd.p." key).bind fun name =>
    (lastOf? ("t." ++ name) (statedEntries tracestate)).map (swap '~' '=')

/-- A span context follows a sampled flag and the trace state that came with it, if any.  A stated
decision that agrees with the flag stands, with all stated tags.  One that does not, cannot be read or is
missing is overruled by the flag, and so is who took it.  Of a trace state that is absent or not printable
nothing is left. -/
structure Follows (sampled : Bool) (tracestate : Option String) (context : SpanContext) : Prop where
  decided : ∃ priority, context.priority = some priority ∧ (0 < priority.value ↔ sampled = true)
  agreed : ∀ text, tracestate = some text → HasPrintableMembers text →
    ∀ priority, statedPriority? text = some priority → (0 < priority.value ↔ sampled = true) →
      context.priority = some priority ∧
      ∀ key, context.propagationTags.get? key = statedTag? text key
  overruled : ∀ text, tracestate = some text → HasPrintableMembers text →
    (∀ priority, statedPriority? text = some priority → ¬ (0 < priority.value ↔ sampled = true)) →
      context.priority = some ⟨if sampled then 1 else 0⟩ ∧
      context.propagationTags.get? "_dd.p.dm" = (if sampled then some "-0" else none) ∧
      ∀ key, key ≠ "_dd.p.dm" → context.propagationTags.get? key = statedTag? text key
  unread : (∀ text, tracestate = some text → ¬ HasPrintableMembers text) →
    context.priority = some ⟨if sampled then 1 else 0⟩ ∧ context.propagationTags.tags = ∅ ∧
      context.propagationTags.tracestate = none ∧ context.origin = none
  mechanism : context.mechanism =
    (context.propagationTags.get? "_dd.p.dm").bind SamplingMechanism.parse?

theorem isPrintable_iff {tracestate : String} :
    TraceState.isPrintable tracestate = true ↔ HasPrintableMembers tracestate := by
  simp only [TraceState.isPrintable, members, HasPrintableMembers, List.all_eq_true, List.mem_map,
    forall_exists_index, and_imp, forall_apply_eq_imp_iff₂, isPrintableAscii, Bool.and_eq_true,
    decide_eq_true_eq]

theorem statedEntries_eq (tracestate : String) :
    statedEntries tracestate = (members tracestate).flatMap TraceState.pairs := by
  rw [statedEntries, members]
  induction pieces ',' tracestate with
  | nil => rw [List.filterMap_nil, List.map_nil, List.flatMap_nil, List.flatMap_nil]
  | cons member rest ih =>
      rw [List.map_cons, List.flatMap_cons, ← ih, TraceState.pairs, memberStart, List.filterMap_cons]
      cases after? "dd=" (trim member) with
      | none => rfl
      | some content => rfl

theorem parse?_eq_none {tracestate : String} (h : ¬ HasPrintableMembers tracestate) :
    TraceState.parse? tracestate = none := by
  rw [TraceState.parse?, if_neg (mt isPrintable_iff.mp h)]

theorem exists_parse?_eq {tracestate : String} (h : HasPrintableMembers tracestate) :
    ∃ state, TraceState.parse? tracestate = some state ∧
      state.priority = statedPriority? tracestate ∧
      state.tags = (statedEntries tracestate).filterMap TraceState.tagOf? := by
  rw [TraceState.parse?, if_pos (isPrintable_iff.mpr h), ← statedEntries_eq, TraceState.foldl_add]
  exact ⟨_, rfl, rfl, rfl⟩

theorem lastOf?_filterMap_tagOf? (name : String) (entries : List (String × String)) :
    lastOf? (tagNamespace ++ name) (entries.filterMap TraceState.tagOf?) =
      (lastOf? (tagStart ++ name) entries).map TraceState.unmask := by
  induction entries with
  | nil => rfl
  | cons entry entries ih =>
      have hentry : lastOf? (tagNamespace ++ name) (TraceState.tagOf? entry).toList =
          (if entry.1 = tagStart ++ name then some entry.2 else none).map TraceState.unmask := by
        rw [TraceState.tagOf?]
        cases hafter : after? tagStart entry.1 with
        | none =>
            have hne : ¬ entry.1 = tagStart ++ name := by
              intro heq
              rw [heq, after?_append] at hafter
              exact Option.some_ne_none name hafter
            rw [if_neg hne]
            rfl
        | some tag =>
            have hkey : tagNamespace ++ tag = tagNamespace ++ name ↔ entry.1 = tagStart ++ name := by
              rw [after?_eq_some_iff.mp hafter, String.append_right_inj, String.append_right_inj]
            rw [Option.map_some, Option.toList_some, lastOf?_singleton]
            simp only [hkey]
            split <;> rfl
      rw [lastOf?_cons, Option.map_or, ← ih, ← hentry, ← lastOf?_append]
      congr 1
      cases htag : TraceState.tagOf? entry with
      | none => rw [List.filterMap_cons_none htag]; rfl
      | some tag => rw [List.filterMap_cons_some htag]; rfl

theorem get?_ofList_tagOf? (tracestate key : String) :
    (PropagationTags.ofList ((statedEntries tracestate).filterMap TraceState.tagOf?)).get? key =
      statedTag? tracestate key := by
  rw [statedTag?]
  cases hname : after? "_dd.p." key with
  | none =>
      have hkey : isPropagated key = false := after?_eq_none_iff.mp hname
      exact PropagationTags.get?_eq_none (by rw [hkey]; exact Bool.false_ne_true) _
  | some name =>
      have hkey : key = tagNamespace ++ name := after?_eq_some_iff.mp hname
      have hpropagated : isPropagated key = true := begins_iff.mpr ⟨name, hkey⟩
      rw [PropagationTags.get?_ofList hpropagated, hkey, lastOf?_filterMap_tagOf?]
      rfl

/-- Where the flag is not agreed with, it decides, and the tag that names who decided follows it. -/
theorem resolvePriority_overruled {sampled : Bool} {stated : Option SamplingPriority}
    (h : ∀ priority, stated = some priority → ¬ priority.isKeep = sampled) (tags : PropagationTags) :
    (resolvePriority sampled stated tags).1 = .ofKeep sampled ∧
      ∀ key, (resolvePriority sampled stated tags).2.get? key =
        if key = decisionMakerTag then (if sampled then some "-0" else none) else tags.get? key := by
  have hstated : stated.filter (·.isKeep == sampled) = none := by
    rw [Option.filter_eq_none_iff]
    intro priority hpriority hkeep
    exact h priority hpriority (beq_iff_eq.mp hkeep)
  rw [resolvePriority, hstated]
  refine ⟨rfl, fun key => ?_⟩
  cases sampled with
  | true =>
      have hpropagated : isPropagated decisionMakerTag = true := by decide
      exact PropagationTags.get?_insert_propagated hpropagated tags _ key
  | false => exact tags.get?_erase decisionMakerTag key

theorem stateContext_decided (sampled : Bool) (header : Option (String × TraceState)) :
    ∃ priority, (stateContext sampled header).priority = some priority ∧
      (0 < priority.value ↔ sampled = true) := by
  obtain ⟨priority, hpriority, hkeep⟩ := stateContext_priority sampled header
  exact ⟨priority, hpriority, SamplingPriority.isKeep_eq_iff.mp hkeep⟩

theorem follows_stateContext_none (sampled : Bool) {tracestate : Option String}
    (h : ∀ text, tracestate = some text → ¬ HasPrintableMembers text) :
    Follows sampled tracestate (stateContext sampled none) where
  decided := stateContext_decided sampled none
  agreed := fun text htext hprintable => absurd hprintable (h text htext)
  overruled := fun text htext hprintable => absurd hprintable (h text htext)
  unread := fun _ => ⟨congrArg some (SamplingPriority.ofKeep_eq sampled), rfl, rfl, rfl⟩
  mechanism := rfl

theorem follows_stateContext_some (sampled : Bool) {text : String} {state : TraceState}
    (hprintable : HasPrintableMembers text) (hpriority : state.priority = statedPriority? text)
    (htags : state.tags = (statedEntries text).filterMap TraceState.tagOf?) :
    Follows sampled (some text) (stateContext sampled (some (text, state))) where
  decided := stateContext_decided sampled (some (text, state))
  agreed := by
    rintro _ ⟨⟩ _ priority hstated hagrees
    rw [← hpriority] at hstated
    obtain rfl := SamplingPriority.isKeep_eq_iff.mpr hagrees
    simp only [stateContext, hstated, resolvePriority_isKeep]
    refine ⟨trivial, fun key => ?_⟩
    rw [← get?_ofList_tagOf?, ← htags]
    rfl
  overruled := by
    rintro _ ⟨⟩ _ hdisagrees
    rw [← hpriority] at hdisagrees
    obtain ⟨hflag, hresolved⟩ := resolvePriority_overruled
      (fun priority hstated hkeep => hdisagrees priority hstated (SamplingPriority.isKeep_eq_iff.mp hkeep))
      (PropagationTags.setTracestate (.ofList state.tags) (some text))
    refine ⟨congrArg some (hflag.trans (SamplingPriority.ofKeep_eq sampled)), ?_, fun key hkey => ?_⟩
    · exact (hresolved decisionMakerTag).trans (if_pos rfl)
    · rw [← get?_ofList_tagOf?, ← htags]
      exact (hresolved key).trans (if_neg hkey)
  unread := fun h => absurd hprintable (h text rfl)
  mechanism := rfl

theorem follows_readState (sampled : Bool) (headers : Headers) :
    Follows sampled (headers.get? tracestateHeader)
      (stateContext sampled (readState headers).value) := by
  rw [value_readState]
  cases headers.get? tracestateHeader with
  | none => exact follows_stateContext_none sampled fun text htext => by cases htext
  | some text =>
      by_cases hprintable : HasPrintableMembers text
      · obtain ⟨state, hstate, hpriority, htags⟩ := exists_parse?_eq hprintable
        rw [Option.bind_some, hstate]
        exact follows_stateContext_some sampled hprintable hpriority htags
      · rw [Option.bind_some, parse?_eq_none hprintable]
        apply follows_stateContext_none
        rintro _ ⟨⟩
        exact hprintable

/-- Every span context that is read follows the lowest flag of its traceparent header, whatever its trace
state says. -/
theorem read_follows_flag {settings : Settings} {headers : Headers} {context : SpanContext}
    (h : (read settings headers).outcome = .ok (.full context)) :
    ∃ (header : String) (fields : TraceParentFields),
      headers.get? traceparentHeader = some header ∧ fields.Spells (trim header).toList ∧
      Follows ((hexValue fields.flags).testBit 0) (headers.get? tracestateHeader) context := by
  obtain ⟨header, parent, hget, hparse, rfl⟩ := exists_of_outcome_read h
  obtain ⟨fields, hspells, _, rfl⟩ := parse_eq_ok_iff.mp hparse
  have hbit : (hexValue fields.flags).testBit 0 = fields.toTraceParent.sampled := by
    rw [Nat.testBit_zero]
    rfl
  have hfollows := follows_readState fields.toTraceParent.sampled headers
  refine ⟨header, fields, hget, hspells, ?_⟩
  rw [hbit]
  exact ⟨hfollows.decided, hfollows.agreed, hfollows.overruled, hfollows.unread, hfollows.mechanism⟩

/-- A trace that is sampled, with a trace state. -/
def sampledHeaders (tracestate : String) : Headers :=
  ⟨[⟨"traceparent", "00-00000000000000000000000000000001-0000000000000002-01"⟩,
    ⟨"tracestate", tracestate⟩]⟩

/-- The last entry names somebody who rejected the trace. -/
def overruledState : String := "dd=s:2;t.dm:-4,other=1, dd=t.usr.id:a~b;s:-1;t.dm:-3"

def agreedState : String := "dd=s:-1;t.dm:-4,other=1, dd=t.usr.id:a~b;s:2;t.dm:-3"

def overruledContext : SpanContext where
  traceId := .bits128 0 1
  spanId := 2
  priority := some ⟨1⟩
  mechanism := some ⟨0⟩
  propagationTags :=
    { tags := ⟨[("_dd.p.dm", "-0"), ("_dd.p.usr.id", "a=b")], by decide⟩
      tracestate := some overruledState
      propagated := by decide }
  style := some .traceContext
  isRemote := true

def agreedContext : SpanContext where
  traceId := .bits128 0 1
  spanId := 2
  priority := some ⟨2⟩
  mechanism := some ⟨3⟩
  propagationTags :=
    { tags := ⟨[("_dd.p.dm", "-3"), ("_dd.p.usr.id", "a=b")], by decide⟩
      tracestate := some agreedState
      propagated := by decide }
  style := some .traceContext
  isRemote := true

theorem read_follows_flag_overruled :
    let isFollowed (tracestate : String) (context : SpanContext) : Prop :=
      ∃ (header : String) (fields : TraceParentFields),
        (sampledHeaders tracestate).get? traceparentHeader = some header ∧
        fields.Spells (trim header).toList ∧
        Follows ((hexValue fields.flags).testBit 0)
          ((sampledHeaders tracestate).get? tracestateHeader) context
    (read {} (sampledHeaders overruledState)).outcome = .ok (.full overruledContext) ∧
      isFollowed overruledState overruledContext ∧
    (read {} (sampledHeaders agreedState)).outcome = .ok (.full agreedContext) ∧
      isFollowed agreedState agreedContext := by
  have hoverruled : (read {} (sampledHeaders overruledState)).outcome =
      .ok (.full overruledContext) := by decide +kernel
  have hagreed : (read {} (sampledHeaders agreedState)).outcome =
      .ok (.full agreedContext) := by decide +kernel
  exact ⟨hoverruled, read_follows_flag hoverruled, hagreed, read_follows_flag hagreed⟩

end TraceHeaders.Format.TraceContext
