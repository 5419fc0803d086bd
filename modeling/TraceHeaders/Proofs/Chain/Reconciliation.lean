import Mathlib.Algebra.Group.Nat.Defs
import TraceHeaders.Chain.Extraction
import TraceHeaders.Proofs.TextMap

namespace TraceHeaders

variable {σ : Type}

/-- What an outcome counts as.  A fault is nothing found. -/
def Extracted.ofOutcome : Except Fault Extracted → Extracted
  | .ok extracted => extracted
  | .error _ => .nothing

def Extracted.fullOf? (outcome : Except Fault Extracted) : Option SpanContext :=
  (ofOutcome outcome).full?

def Extracted.tagsOnlyOf? (outcome : Except Fault Extracted) : Option TagContext :=
  (ofOutcome outcome).tagsOnly?

theorem Extracted.fullOf?_eq_some_iff {outcome : Except Fault Extracted} {context : SpanContext} :
    fullOf? outcome = some context ↔ outcome = .ok (.full context) := by
  rcases outcome with fault | extracted
  · simp [fullOf?, ofOutcome, full?]
  · cases extracted <;> simp [fullOf?, ofOutcome, full?]

theorem Extracted.tagsOnlyOf?_eq_some_iff {outcome : Except Fault Extracted}
    {context : TagContext} : tagsOnlyOf? outcome = some context ↔
      outcome = .ok (.tagsOnly context) := by
  rcases outcome with fault | extracted
  · simp [tagsOnlyOf?, ofOutcome, tagsOnly?]
  · cases extracted <;> simp [tagsOnlyOf?, ofOutcome, tagsOnly?]

namespace SpanContext

/-- Whether a later context lends its trace state: it names the same trace, in the headers that define
the trace state. -/
def takesStateFrom (canonical later : SpanContext) : Bool :=
  canonical.traceId.sameTrace later.traceId && decide (later.style = some .traceContext)

/-- The context whose trace state counts: the last later one that lends its own, else the canonical one. -/
def lender (canonical : SpanContext) (later : List SpanContext) : SpanContext :=
  (later.filter canonical.takesStateFrom).getLast?.getD canonical

/-- A canonical context and all full contexts after it, seen at once.  The last lender counts, and the
contexts of other traces become links in their order. -/
def withLater (canonical : SpanContext) (later : List SpanContext) : SpanContext :=
  { canonical with
    propagationTags := { canonical.propagationTags with
      tracestate := (canonical.lender later).propagationTags.tracestate }
    links := canonical.links ++
      (later.filter fun other => !canonical.traceId.sameTrace other.traceId).map
        SpanLink.terminated }

/-- What was found is a canonical context that has taken a trace state from the full contexts after it and
links to those of other traces.  Nothing else of it has changed, its tags included. -/
structure IsJoined (canonical : SpanContext) (later : List SpanContext) (found : SpanContext) :
    Prop where
  tracestate :
    found.propagationTags.tracestate = (canonical.lender later).propagationTags.tracestate
  tags : found.propagationTags.tags = canonical.propagationTags.tags
  links : found.links = canonical.links ++
    (later.filter fun other => !canonical.traceId.sameTrace other.traceId).map SpanLink.terminated
  others : { found with propagationTags := canonical.propagationTags, links := canonical.links } =
    canonical

theorem isJoined_iff {canonical found : SpanContext} {later : List SpanContext} :
    canonical.IsJoined later found ↔ found = canonical.withLater later := by
  constructor
  · rintro ⟨htracestate, htags, hlinks, hothers⟩
    have hpropagated : found.propagationTags = (canonical.withLater later).propagationTags :=
      PropagationTags.eq_of_tags htags htracestate
    calc found
        = { { found with propagationTags := canonical.propagationTags, links := canonical.links } with
            propagationTags := found.propagationTags, links := found.links } := rfl
      _ = { canonical with propagationTags := found.propagationTags, links := found.links } := by
          rw [hothers]
      _ = canonical.withLater later := by
          rw [hpropagated, hlinks]
          rfl
  · rintro rfl
    exact ⟨rfl, rfl, rfl, rfl⟩

@[simp] theorem withLater_nil (canonical : SpanContext) : canonical.withLater [] = canonical := by
  simp [withLater, lender]

theorem lender_append (canonical : SpanContext) (earlier later : List SpanContext) :
    canonical.lender (earlier ++ later) =
      (later.filter canonical.takesStateFrom).getLast?.getD (canonical.lender earlier) := by
  rw [lender, lender, List.filter_append, List.getLast?_append]
  cases (later.filter canonical.takesStateFrom).getLast? <;> rfl

theorem IsJoined.traceId {canonical found : SpanContext} {later : List SpanContext}
    (h : canonical.IsJoined later found) : found.traceId = canonical.traceId := by
  have htraceId := congrArg SpanContext.traceId h.others
  exact htraceId

theorem isJoined_reconcile (canonical later : SpanContext) :
    canonical.IsJoined [later] (canonical.reconcile later) := by
  by_cases hsame : canonical.traceId.sameTrace later.traceId = true
  · by_cases hstyle : later.style = some .traceContext
    · have hreconcile : canonical.reconcile later = { canonical with
          propagationTags :=
            canonical.propagationTags.setTracestate later.propagationTags.tracestate } := by
        rw [reconcile, if_pos hsame, if_pos hstyle]
      rw [hreconcile]
      refine ⟨?_, rfl, ?_, rfl⟩
      · simp [lender, takesStateFrom, hsame, hstyle, PropagationTags.setTracestate]
      · simp [hsame]
    · have hreconcile : canonical.reconcile later = canonical := by
        rw [reconcile, if_pos hsame, if_neg hstyle]
      rw [hreconcile]
      refine ⟨?_, rfl, ?_, rfl⟩
      · simp [lender, takesStateFrom, hstyle]
      · simp [hsame]
  · have hreconcile : canonical.reconcile later =
        { canonical with links := canonical.links ++ [.terminated later] } := by
      rw [reconcile, if_neg hsame]
    rw [hreconcile]
    refine ⟨?_, rfl, ?_, rfl⟩
    · simp [lender, takesStateFrom, hsame]
    · simp [hsame]

/-- Of two runs the second one has the last word on the trace state, and its links follow. -/
theorem IsJoined.append {canonical next found : SpanContext} {earlier later : List SpanContext}
    (h : canonical.IsJoined earlier next) (hlater : next.IsJoined later found) :
    canonical.IsJoined (earlier ++ later) found := by
  have htakes : next.takesStateFrom = canonical.takesStateFrom := by
    funext other
    rw [takesStateFrom, takesStateFrom, h.traceId]
  refine ⟨?_, hlater.tags.trans h.tags, ?_, ?_⟩
  · rw [hlater.tracestate, lender_append, lender, htakes]
    cases (later.filter canonical.takesStateFrom).getLast? with
    | none => exact h.tracestate
    | some last => rfl
  · rw [hlater.links, h.links, h.traceId, List.filter_append, List.map_append, List.append_assoc]
  · calc { found with propagationTags := canonical.propagationTags, links := canonical.links }
        = { { found with propagationTags := next.propagationTags, links := next.links } with
            propagationTags := canonical.propagationTags, links := canonical.links } := rfl
      _ = { next with
            propagationTags := canonical.propagationTags, links := canonical.links } := by
          rw [hlater.others]
      _ = canonical := h.others

theorem withLater_cons (canonical first : SpanContext) (later : List SpanContext) :
    canonical.withLater (first :: later) = (canonical.reconcile first).withLater later :=
  (isJoined_iff.mp ((isJoined_reconcile canonical first).append (isJoined_iff.mpr rfl))).symm

end SpanContext

/-- All full contexts joined to the first of them. -/
def SpanContext.joinAll : List SpanContext → Option SpanContext
  | [] => none
  | canonical :: later => some (canonical.withLater later)

/-- The result of a list of outcomes: all full contexts joined if there are any, else the first data
without an identity. -/
def Extracted.resolve (outcomes : List (Except Fault Extracted)) : Extracted :=
  match SpanContext.joinAll (outcomes.filterMap fullOf?), outcomes.findSome? tagsOnlyOf? with
  | some context, _ => .full context
  | none, some context => .tagsOnly context
  | none, none => .nothing

/-- What a list of outcomes calls for: the first full context, joined with those after it, else the first
data without an identity, else nothing. -/
inductive Extracted.IsResult (outcomes : List (Except Fault Extracted)) : Extracted → Prop where
  | full {canonical found : SpanContext} {later : List SpanContext}
      (hfull : outcomes.filterMap fullOf? = canonical :: later)
      (hfound : canonical.IsJoined later found) : IsResult outcomes (.full found)
  | tagsOnly {context : TagContext} (hfull : outcomes.filterMap fullOf? = [])
      (htags : outcomes.findSome? tagsOnlyOf? = some context) :
      IsResult outcomes (.tagsOnly context)
  | nothing (hfull : outcomes.filterMap fullOf? = [])
      (htags : outcomes.findSome? tagsOnlyOf? = none) : IsResult outcomes .nothing

theorem Extracted.resolve_eq_iff {outcomes : List (Except Fault Extracted)} {result : Extracted} :
    resolve outcomes = result ↔ IsResult outcomes result := by
  constructor
  · rintro rfl
    rw [resolve]
    cases hfull : outcomes.filterMap fullOf? with
    | cons canonical later => exact .full hfull (SpanContext.isJoined_iff.mpr rfl)
    | nil =>
        cases htags : outcomes.findSome? tagsOnlyOf? with
        | some context => exact .tagsOnly hfull htags
        | none => exact .nothing hfull htags
  · rintro (⟨hfull, hfound⟩ | ⟨hfull, htags⟩ | ⟨hfull, htags⟩)
    · rw [resolve, hfull, SpanContext.isJoined_iff.mp hfound]
      rfl
    · rw [resolve, hfull, htags]
      rfl
    · rw [resolve, hfull, htags]
      rfl

theorem Extracted.exists_of_resolve {outcomes : List (Except Fault Extracted)} {found : SpanContext}
    (h : resolve outcomes = .full found) :
    ∃ canonical later, outcomes.filterMap fullOf? = canonical :: later ∧
      found = canonical.withLater later := by
  cases resolve_eq_iff.mp h with
  | full hfull hfound => exact ⟨_, _, hfull, SpanContext.isJoined_iff.mp hfound⟩

theorem Extracted.mem_of_resolve_tagsOnly {outcomes : List (Except Fault Extracted)}
    {found : TagContext} (h : resolve outcomes = .tagsOnly found) :
    .ok (.tagsOnly found) ∈ outcomes := by
  cases resolve_eq_iff.mp h with
  | tagsOnly hfull htags =>
      obtain ⟨outcome, houtcome, hfound⟩ := List.exists_of_findSome?_eq_some htags
      rwa [tagsOnlyOf?_eq_some_iff.mp hfound] at houtcome

namespace Findings

def addOutcome (found : Findings) (outcome : Except Fault Extracted) : Findings :=
  found.add (.ofOutcome outcome)

theorem canonical_addOutcome (found : Findings) (outcome : Except Fault Extracted) :
    (found.addOutcome outcome).canonical =
      match Extracted.fullOf? outcome with
      | some context => some (found.canonical.elim context (·.reconcile context))
      | none => found.canonical := by
  rcases outcome with fault | extracted
  · rfl
  · cases extracted <;> rfl

theorem firstTagsOnly_addOutcome (found : Findings) (outcome : Except Fault Extracted) :
    (found.addOutcome outcome).firstTagsOnly =
      (found.firstTagsOnly <|> Extracted.tagsOnlyOf? outcome) := by
  rcases outcome with fault | extracted
  · simp [addOutcome, Extracted.ofOutcome, Extracted.tagsOnlyOf?, Extracted.tagsOnly?, add]
  · cases extracted <;>
      simp [addOutcome, Extracted.ofOutcome, Extracted.tagsOnlyOf?, Extracted.tagsOnly?, add]

theorem canonical_foldl (outcomes : List (Except Fault Extracted)) (found : Findings) :
    (outcomes.foldl addOutcome found).canonical =
      SpanContext.joinAll (found.canonical.toList ++ outcomes.filterMap Extracted.fullOf?) := by
  induction outcomes generalizing found with
  | nil => cases h : found.canonical <;> simp [SpanContext.joinAll, h]
  | cons outcome outcomes ih =>
      rw [List.foldl_cons, ih, canonical_addOutcome]
      cases hfull : Extracted.fullOf? outcome with
      | none => rw [List.filterMap_cons_none hfull]
      | some context =>
          rw [List.filterMap_cons_some hfull]
          cases found.canonical with
          | none => rfl
          | some canonical =>
              simp [SpanContext.joinAll, SpanContext.withLater_cons]

theorem firstTagsOnly_foldl (outcomes : List (Except Fault Extracted)) (found : Findings) :
    (outcomes.foldl addOutcome found).firstTagsOnly =
      (found.firstTagsOnly <|> outcomes.findSome? Extracted.tagsOnlyOf?) := by
  induction outcomes generalizing found with
  | nil => simp
  | cons outcome outcomes ih =>
      rw [List.foldl_cons, ih, firstTagsOnly_addOutcome, List.findSome?_cons]
      cases found.firstTagsOnly <;> cases Extracted.tagsOnlyOf? outcome <;> simp

theorem result_foldl (outcomes : List (Except Fault Extracted)) :
    (outcomes.foldl addOutcome {}).result = Extracted.resolve outcomes := by
  rw [result, Extracted.resolve, canonical_foldl, firstTagsOnly_foldl]
  simp only [Option.toList_none, List.nil_append]
  cases SpanContext.joinAll (outcomes.filterMap Extracted.fullOf?) with
  | some context => rfl
  | none => cases outcomes.findSome? Extracted.tagsOnlyOf? <;> rfl

end Findings

namespace ExtractorChain

/-- How extractors end when each of them is asked, from the scratch state that the one before it
left. -/
def outcomes (headers : Headers) : List (Extractor σ) → σ → List (Except Fault Extracted)
  | [], _ => []
  | extractor :: rest, state =>
      let answer := ((extractor.extract headers).run state).value
      answer.1 :: outcomes headers rest answer.2

/-- The outcomes up to the first full context, that one included. -/
def throughFirstFull : List (Except Fault Extracted) → List (Except Fault Extracted)
  | [] => []
  | outcome :: rest =>
      if (Extracted.fullOf? outcome).isSome then [outcome] else outcome :: throughFirstFull rest

/-- The outcomes that count: all of them, or those up to the first full context. -/
def counted (stopsAtFirst : Bool) (outcomes : List (Except Fault Extracted)) :
    List (Except Fault Extracted) :=
  if stopsAtFirst then throughFirstFull outcomes else outcomes

theorem value_ask (extractor : Extractor σ) (headers : Headers) (state : σ) :
    ((extractor.ask headers).run state).value =
      (Extracted.ofOutcome ((extractor.extract headers).run state).value.1,
        ((extractor.extract headers).run state).value.2) := by
  simp only [Extractor.ask, StateT.run_bind, Logged.value_bind]
  generalize ((extractor.extract headers).run state).value = answer
  obtain ⟨outcome, state⟩ := answer
  rcases outcome with fault | extracted
  · cases fault <;> rfl
  · rfl

theorem value_askAll_cons (stopsAtFirst : Bool) (headers : Headers) (found : Findings)
    (extractor : Extractor σ) (rest : List (Extractor σ)) (state : σ) :
    ((askAll stopsAtFirst headers found (extractor :: rest)).run state).value.1 =
      let answer := ((extractor.extract headers).run state).value
      let found := found.addOutcome answer.1
      if stopsAtFirst && found.canonical.isSome then found
      else ((askAll stopsAtFirst headers found rest).run answer.2).value.1 := by
  have hadd (outcome : Except Fault Extracted) :
      found.add (.ofOutcome outcome) = found.addOutcome outcome := rfl
  simp only [askAll, StateT.run_bind, Logged.value_bind, value_ask, hadd]
  split <;> rfl

/-- The search takes in the outcomes that count, in order.  As long as it may stop, it has found no
full context yet. -/
theorem value_askAll (stopsAtFirst : Bool) (headers : Headers) (extractors : List (Extractor σ))
    (found : Findings) (state : σ) (hfound : stopsAtFirst = true → found.canonical = none) :
    ((askAll stopsAtFirst headers found extractors).run state).value.1 =
      (counted stopsAtFirst (outcomes headers extractors state)).foldl Findings.addOutcome
        found := by
  induction extractors generalizing found state with
  | nil => cases stopsAtFirst <;> rfl
  | cons extractor rest ih =>
      rw [value_askAll_cons]
      simp only [outcomes]
      generalize ((extractor.extract headers).run state).value = answer
      obtain ⟨outcome, state⟩ := answer
      have hcanonical := Findings.canonical_addOutcome found outcome
      cases stopsAtFirst with
      | false => simpa [counted] using ih (found.addOutcome outcome) state (by simp)
      | true =>
          rw [hfound rfl] at hcanonical
          cases hfull : Extracted.fullOf? outcome with
          | some context =>
              rw [hfull] at hcanonical
              simp [counted, throughFirstFull, hcanonical, hfull]
          | none =>
              rw [hfull] at hcanonical
              have hrest := ih (found.addOutcome outcome) state fun _ => hcanonical
              simpa [counted, throughFirstFull, hcanonical, hfull] using hrest

theorem value_extractFrom (chain : ExtractorChain σ) (headers : Headers) (state : σ) :
    ((chain.extractFrom headers).run state).value.1 =
      Extracted.resolve
        (counted chain.stopsAtFirst (outcomes headers chain.extractors state)) := by
  have hvalue : ((chain.extractFrom headers).run state).value.1 =
      ((askAll chain.stopsAtFirst headers {} chain.extractors).run state).value.1.result := rfl
  rw [hvalue, value_askAll _ _ _ _ _ fun _ => rfl, Findings.result_foldl]

theorem value_extract (chain : ExtractorChain σ) (carrier : Action σ Headers) (state : σ) :
    ((chain.extract carrier).run state).value.1 =
      Extracted.resolve (counted chain.stopsAtFirst
        (outcomes (carrier.run state).value.1 chain.extractors (carrier.run state).value.2)) := by
  rw [extract]
  split
  · rename_i hempty
    rw [List.isEmpty_iff.mp hempty]
    cases chain.stopsAtFirst <;> rfl
  · exact chain.value_extractFrom (carrier.run state).value.1 (carrier.run state).value.2

end ExtractorChain

/-- What a link tells about a context: the whole trace identifier in two halves, the span, the sampling
decision, the trace state if its headers define one, and the headers it came from. -/
structure SpanLink.Identifies (link : SpanLink) (context : SpanContext) : Prop where
  traceId : (link.traceIdUpper.getD 0).toNat * 2 ^ 64 + link.traceId.toNat = context.traceId.toNat
  spanId : link.spanId = context.spanId
  flags : link.flags = context.priority.map fun priority => if priority.isKeep then 1 else 0
  tracestate : link.tracestate =
    if context.style = some .traceContext then context.propagationTags.tracestate else none
  attributes : ∃ attributes, link.attributes = some attributes ∧ ∀ key, attributes.get? key =
    if key = "context_headers" then some ((context.style.map Style.name).getD "")
    else if key = "reason" then some "terminated_context"
    else none

theorem SpanLink.terminated_identifies (context : SpanContext) :
    (SpanLink.terminated context).Identifies context where
  traceId := by
    simp only [terminated, TraceId.upper?, TraceId.toNat, UInt64.size]
    split
    · rename_i hupper
      simp [hupper]
    · rfl
  spanId := rfl
  flags := rfl
  tracestate := rfl
  attributes := by
    refine ⟨terminatedAttributes context.style, rfl, fun key => ?_⟩
    simp [terminatedAttributes, TextMap.ofList, TextMap.insertMany]

/-- The result of a chain is that of its outcomes, for any extractors and any scratch state: the first
full context, to which later ones of its trace lend their trace state and later ones of other traces
are linked.  Every such link identifies its context. -/
theorem ExtractorChain.extractFrom_resolves (chain : ExtractorChain σ) (headers : Headers)
    (state : σ) :
    (∀ result, ((chain.extractFrom headers).run state).value.1 = result ↔
      Extracted.IsResult
        (counted chain.stopsAtFirst (outcomes headers chain.extractors state)) result) ∧
      ∀ context, (SpanLink.terminated context).Identifies context := by
  refine ⟨fun result => ?_, SpanLink.terminated_identifies⟩
  rw [value_extractFrom, Extracted.resolve_eq_iff]

namespace ExtractorChain

/-- An extractor that always ends in one way and counts its calls. -/
def settled (style : Style) (outcome : Except Fault Extracted) (records : List Log.Record) :
    Extractor Nat where
  style := style
  extract _ := fun calls => ⟨(outcome, calls + 1), records⟩

/-- A trace of 64 bits, found by the second extractor. -/
def narrowContext : SpanContext where
  traceId := .bits64 1
  spanId := 2
  tags := ⟨[("kept", "yes")], by decide⟩
  propagationTags :=
    { tags := ⟨[("_dd.p.dm", "-1")], by decide⟩
      tracestate := some "own=1"
      propagated := by decide }
  style := some .datadog

/-- A context of 128 bits whose lower half is that of the narrow one. -/
def lendingContext (upper : UInt64) (tracestate : Option String) : SpanContext where
  traceId := .bits128 upper 1
  spanId := 3
  tags := ⟨[("dropped", "yes")], by decide⟩
  propagationTags :=
    { tags := ⟨[("_dd.p.usr", "dropped")], by decide⟩
      tracestate
      propagated := by decide }
  style := some .traceContext

/-- Two traces that differ both agree with the narrow one, and the second of them lends last.  A context
of the same trace in other headers lends nothing, and one of another trace is linked. -/
def lendingChain (stopsAtFirst : Bool) (last : Option String) : ExtractorChain Nat where
  extractors :=
    [settled .b3Multi (.ok (.tagsOnly { origin := some "rum" })) [],
      settled .datadog (.ok (.full narrowContext)) [],
      settled .traceContext (.ok (.full (lendingContext 7 (some "first=1")))) [],
      settled .xray (.error .crashed) [],
      settled .b3Single (.ok (.full
        { traceId := .bits128 9 2, spanId := 4, priority := some .userKeep
          style := some .b3Single })) [],
      settled .traceContext (.ok (.full (lendingContext 8 last))) [],
      settled .haystack (.ok (.full
        { traceId := .bits64 1, propagationTags := (lendingContext 0 (some "other=1")).propagationTags
          style := some .haystack })) []]
  stopsAtFirst

/-- The narrow context as the chain leaves it. -/
def joinedContext (tracestate : Option String) : SpanContext :=
  { narrowContext with
    propagationTags := { narrowContext.propagationTags with tracestate }
    links :=
      [{ traceId := 2
         traceIdUpper := some 9
         spanId := 4
         attributes := some
           ⟨[("context_headers", "b3"), ("reason", "terminated_context")], by decide⟩
         tracestate := none
         flags := some 1 }] }

theorem extractFrom_resolves_lending :
    (((lendingChain false (some "last=1")).extractFrom ⟨[]⟩).run 0).value.1 =
      .full (joinedContext (some "last=1")) ∧
    (((lendingChain false none).extractFrom ⟨[]⟩).run 0).value.1 = .full (joinedContext none) ∧
    (((lendingChain true none).extractFrom ⟨[]⟩).run 0).value.1 = .full narrowContext := by
  have hjoined (last : Option String) :
      (((lendingChain false last).extractFrom ⟨[]⟩).run 0).value.1 = .full (joinedContext last) :=
    ((extractFrom_resolves (lendingChain false last) ⟨[]⟩ 0).1 _).mpr
      (.full rfl ⟨rfl, rfl, rfl, rfl⟩)
  have hstopped := (extractFrom_resolves (lendingChain true none) ⟨[]⟩ 0).1 (.full narrowContext)
  exact ⟨hjoined (some "last=1"), hjoined none, hstopped.mpr (.full rfl ⟨rfl, rfl, rfl, rfl⟩)⟩

end ExtractorChain

end TraceHeaders
