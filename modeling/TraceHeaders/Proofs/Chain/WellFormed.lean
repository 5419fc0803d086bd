import Mathlib.Data.List.Dedup
import TraceHeaders.Proofs.Chain.Agreement
import TraceHeaders.Proofs.Format.Found

namespace TraceHeaders

variable {σ : Type}

/-- A span context as a chain of styles finds it: it names a trace and bears one of the styles, and
every other style has left it at most one link. -/
structure SpanContext.IsFoundBy (styles : List Style) (context : SpanContext) : Prop where
  trace : context.traceId.toNat ≠ 0
  bears : ∃ style ∈ styles, context.style = some style
  links : context.links.length < styles.dedup.length

def Extracted.IsFoundBy (styles : List Style) : Extracted → Prop
  | .full context => context.IsFoundBy styles
  | .tagsOnly context => context.isEmpty = false
  | .nothing => True

theorem Style.length_once (styles : List Style) :
    (once styles).value.length = styles.dedup.length := by
  have hperm : (once styles).value.Perm styles.dedup := by
    rw [List.perm_ext_iff_of_nodup (nodup_once styles) styles.nodup_dedup]
    exact fun style => mem_once.trans List.mem_dedup.symm
  exact hperm.length_eq

theorem SpanContext.length_links_withLater (canonical : SpanContext) (later : List SpanContext) :
    (canonical.withLater later).links.length ≤ canonical.links.length + later.length := by
  rw [withLater, List.length_append, List.length_map]
  exact Nat.add_le_add_left (List.length_filter_le _ later) canonical.links.length

theorem Extracted.isFoundBy_resolve {styles : List Style} {outcomes : List (Except Fault Extracted)}
    (hlength : outcomes.length ≤ styles.dedup.length)
    (h : ∀ extracted, .ok extracted ∈ outcomes →
      ∃ style ∈ styles, ∃ side, extracted.IsWellFormed style side) :
    (resolve outcomes).IsFoundBy styles := by
  cases hfound : resolve outcomes with
  | nothing => trivial
  | tagsOnly context =>
      obtain ⟨_, _, _, hwell⟩ := h _ (mem_of_resolve_tagsOnly hfound)
      exact hwell.2
  | full context =>
      obtain ⟨canonical, later, hfull, rfl⟩ := exists_of_resolve hfound
      have hmem : canonical ∈ outcomes.filterMap fullOf? := by
        rw [hfull]
        exact List.mem_cons_self
      obtain ⟨outcome, houtcome, hcanonical⟩ := List.mem_filterMap.mp hmem
      rw [fullOf?_eq_some_iff.mp hcanonical] at houtcome
      obtain ⟨style, hstyle, _, hwell⟩ := h _ houtcome
      have hlater : later.length < outcomes.length := by
        have hcount := List.length_filterMap_le fullOf? outcomes
        rwa [hfull, List.length_cons] at hcount
      refine ⟨hwell.trace, ⟨style, hstyle, hwell.bears⟩, ?_⟩
      calc (canonical.withLater later).links.length
          ≤ canonical.links.length + later.length := canonical.length_links_withLater later
        _ = later.length := by rw [hwell.links, List.length_nil, Nat.zero_add]
        _ < outcomes.length := hlater
        _ ≤ styles.dedup.length := hlength

namespace Settings

/-- Every result is well formed, that of a single codec for any headers as well as that of the
configured chain for any carrier. -/
theorem extracted_isWellFormed (settings : Settings) :
    (∀ style read, Style.read? settings style = some read → ∀ headers : Headers,
      (read headers).Ensures (·.IsWellFormed style (style.sideData settings headers))) ∧
    ∀ (carrier : Carrier) (state : σ),
      (settings.extracted carrier state).IsFoundBy settings.extractors := by
  refine ⟨fun style read hread headers => Style.ensures_read? hread headers, fun carrier state => ?_⟩
  rw [extracted_eq]
  have hcounted := ExtractorChain.counted_sublist settings.extractFirst
    (((Style.once settings.extractors).value.filterMap (·.read? settings)).map fun read =>
      (read carrier.headers).outcome)
  refine Extracted.isFoundBy_resolve ?_ ?_
  · rw [← Style.length_once]
    exact hcounted.length_le.trans
      ((List.length_map _).trans_le (List.length_filterMap_le _ _))
  · intro extracted hextracted
    obtain ⟨read, hread, houtcome⟩ := List.mem_map.mp (hcounted.subset hextracted)
    obtain ⟨style, hstyle, hread⟩ := List.mem_filterMap.mp hread
    exact ⟨style, Style.mem_once.mp hstyle, _,
      Style.ensures_read? hread carrier.headers extracted houtcome⟩

def conflictingStyles : List Style := [.datadog, .b3Single, .none, .datadog, .traceContext]

/-- Headers of three styles that name three traces. -/
def conflictingHeaders : List Header :=
  [⟨"X-Datadog-Trace-Id", "1"⟩, ⟨"x-datadog-tags", "_dd.p.dm=-4"⟩, ⟨"b3", "2-b-1"⟩,
    ⟨"traceparent", "00-00000000000000000000000000000003-000000000000000c-00"⟩]

def conflictingCanonical : SpanContext where
  traceId := .bits64 1
  mechanism := some ⟨4⟩
  propagationTags :=
    { tags := ⟨[("_dd.p.dm", "-4")], by decide⟩
      tracestate := none
      propagated := by decide }
  style := some .datadog
  isRemote := true

def conflictingLinks : List SpanLink :=
  [.terminated
      { traceId := .bits64 2, spanId := 0xb, priority := some .autoKeep, style := some .b3Single },
    .terminated
      { traceId := .bits64 3, spanId := 0xc, priority := some .autoReject,
        style := some .traceContext }]

theorem extracted_isWellFormed_conflicting :
    ∃ found : SpanContext,
      ({ styles := some conflictingStyles } : Settings).extracted (.list conflictingHeaders) () =
        .full found ∧
      found.links.map (·.traceId) = [2, 3] ∧ conflictingStyles.dedup.length = 4 ∧
      found.IsFoundBy conflictingStyles ∧ conflictingCanonical.IsFoundAs .datadog := by
  obtain ⟨hcodecs, hchain⟩ := extracted_isWellFormed { styles := some conflictingStyles }
  have hfound := hchain (.list conflictingHeaders) ()
  have hcanonical : (Format.Datadog.read { styles := some conflictingStyles }
      ⟨conflictingHeaders⟩).outcome = .ok (.full conflictingCanonical) := by decide +kernel
  have hwell := hcodecs .datadog _ rfl ⟨conflictingHeaders⟩ _ hcanonical
  have hresult : ({ styles := some conflictingStyles } : Settings).extracted
      (.list conflictingHeaders) () =
        .full { conflictingCanonical with links := conflictingLinks } := by decide +kernel
  rw [hresult] at hfound
  exact ⟨_, hresult, rfl, by decide, hfound, hwell⟩

end Settings

end TraceHeaders
