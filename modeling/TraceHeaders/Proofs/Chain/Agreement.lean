import TraceHeaders.Dispatch
import TraceHeaders.Proofs.Carrier
import TraceHeaders.Proofs.Chain.Reconciliation
import TraceHeaders.Proofs.Format.Names
import TraceHeaders.Proofs.Style

namespace TraceHeaders

variable {σ : Type}

namespace Style

theorem exists_read? (settings : Settings) {style : Style} (h : style ≠ .none) :
    ∃ read, style.read? settings = some read := by
  cases style with
  | none => exact absurd rfl h
  | datadog | b3Multi | b3Single | haystack | xray | traceContext => exact ⟨_, rfl⟩

variable {settings : Settings} {context : SpanContext}

theorem isHeaderOf_of_mem_written (hnames : settings.baggageHeaders = ∅)
    (h : context.IsPortable) {style : Style} {header : Header}
    (hheader : header ∈ style.written settings context) : IsHeaderOf style header := by
  rcases name_of_mem_written hheader with hkey | hbaggage
  · exact .inl hkey
  · obtain ⟨item, hitem, hname⟩ := mem_baggageNames.mp hbaggage
    refine .inr ⟨item.1, h.baggage item hitem, ?_⟩
    cases style with
    | datadog | traceContext =>
        exact .inl ((Option.some.inj hname).symm.trans (Format.baggageName_eq hnames _ item.1))
    | haystack =>
        exact .inr ((Option.some.inj hname).symm.trans (Format.baggageName_eq hnames _ item.1))
    | xray =>
        rw [baggageName?, Settings.baggageHeader?, hnames, TextMap.get?_empty] at hname
        cases hname
    | b3Multi | b3Single | none => cases hname

theorem read_restates (hnames : settings.baggageHeaders = ∅) (h : context.IsPortable)
    {style : Style} {read : Headers → Reading Extracted} (hread : style.read? settings = some read)
    {headers : Headers} (hheaders : ∀ key ∈ style.keys, headers.get? key =
      Headers.get? ⟨style.written settings context⟩ key) :
    ∃ found, (read headers).outcome = .ok (.full found) ∧ found.Restates context := by
  cases style with
  | datadog =>
      cases hread
      apply Format.Datadog.read_restates h
      intro key hkey
      rw [hheaders key hkey]
      have hkey : key ∈ Style.datadog.keys := hkey
      exact get?_append_baggage hnames (.inl rfl) _ h _ hkey
  | b3Multi =>
      cases hread
      apply Format.B3.Multi.read_restates h
      intro key hkey
      rw [hheaders key hkey, ← Format.B3.Multi.value_write settings (TraceId.isZero_of_lower h.trace)]
      rfl
  | b3Single =>
      cases hread
      apply Format.B3.Single.read_restates h
      intro key hkey
      rw [hheaders key hkey, ← Format.B3.Single.value_write settings (TraceId.isZero_of_lower h.trace)]
      rfl
  | haystack =>
      cases hread
      apply Format.Haystack.read_restates settings h
      intro key hkey
      rw [hheaders key hkey]
      have hkey : key ∈ Style.haystack.keys := hkey
      exact get?_append_baggage hnames (.inr rfl) _ h _ hkey
  | xray =>
      cases hread
      exact Format.Xray.read_restates hnames h hheaders
  | traceContext =>
      cases hread
      have hidentified := Format.TraceContext.identified_of_isPortable h
      apply Format.TraceContext.read_restates settings h
      intro key hkey
      have hwritten : Style.traceContext.written settings context =
          Format.TraceContext.ownHeaders context ++ Format.writeBaggage settings
            Format.openTracingStart Text.encodePercent context.baggage :=
        Format.TraceContext.value_write hidentified settings
      have hkey : key ∈ Style.traceContext.keys := hkey
      rw [hheaders key hkey, hwritten]
      exact get?_append_baggage hnames (.inl rfl) _ h _ hkey
  | none => exact absurd hread (Option.some_ne_none read).symm

theorem get?_flatMap_written (hnames : settings.baggageHeaders = ∅) (h : context.IsPortable)
    {styles : List Style} (hnodup : styles.Nodup) {style : Style} (hstyle : style ∈ styles)
    {key : String} (hkey : key ∈ style.keys) :
    Headers.get? ⟨styles.flatMap (written settings context)⟩ key =
      Headers.get? ⟨style.written settings context⟩ key := by
  apply Headers.get?_flatMap hnodup _ hstyle
  intro other _ hne header hheader
  exact isNamed_eq_false_of_isHeaderOf (Ne.symm hne) (isHeaderOf_of_mem_written hnames h hheader) hkey

end Style

namespace SpanContext

variable {context : SpanContext}

theorem IsPortable.withSession (h : context.IsPortable) : context.withSession.IsPortable := by
  rw [SpanContext.withSession]
  cases hsession : context.tags.get? sessionSpanTag with
  | none => exact h
  | some session =>
      refine ⟨h.trace, h.span, h.origin, ?_, h.session, h.baggage⟩
      intro tag htag
      have hinsert : (context.propagationTags.setSession session).tags =
          context.propagationTags.tags.insert sessionTag session :=
        PropagationTags.tags_insert (by decide) context.propagationTags session
      rw [hinsert] at htag
      rcases TextMap.mem_insertEntry htag with rfl | htag
      · have hkey : ',' ∉ sessionTag.toList := by decide
        exact ⟨hkey, h.session session hsession⟩
      · exact h.tags tag htag

theorem restates_withSession {found : SpanContext} :
    found.Restates context.withSession ↔ found.Restates context := by
  have htrace : context.withSession.traceId = context.traceId := by
    rw [withSession]
    split <;> rfl
  have hspan : context.withSession.spanId = context.spanId := by
    rw [withSession]
    split <;> rfl
  have hpriority : context.withSession.priority = context.priority := by
    rw [withSession]
    split <;> rfl
  constructor
  · rintro ⟨htraceId, hspanId, hdecision, hlinks⟩
    rw [htrace] at htraceId
    rw [hspan] at hspanId
    rw [hpriority] at hdecision
    exact ⟨htraceId, hspanId, hdecision, hlinks⟩
  · rintro ⟨htraceId, hspanId, hdecision, hlinks⟩
    rw [← htrace] at htraceId
    rw [← hspan] at hspanId
    rw [← hpriority] at hdecision
    exact ⟨htraceId, hspanId, hdecision, hlinks⟩

/-- Contexts that restate one context are of one trace, so none of them becomes a link. -/
theorem Restates.withLater {canonical : SpanContext} (h : canonical.Restates context)
    {later : List SpanContext} (hlater : ∀ other ∈ later, other.Restates context) :
    (canonical.withLater later).Restates context := by
  have hlinks : (later.filter fun other => !canonical.traceId.sameTrace other.traceId) = [] := by
    rw [List.filter_eq_nil_iff]
    intro other hother
    rw [h.traceId.sameTrace (hlater other hother).traceId]
    exact Bool.false_ne_true
  refine ⟨h.traceId, h.spanId, h.decision, ?_⟩
  rw [SpanContext.withLater, hlinks, h.links]
  rfl

end SpanContext

/-- An outcome that is a full context restating the given one. -/
def RestatesAs (context : SpanContext) (outcome : Except Fault Extracted) : Prop :=
  ∃ found, outcome = .ok (.full found) ∧ found.Restates context

theorem Extracted.resolve_of_restates {context : SpanContext}
    {outcomes : List (Except Fault Extracted)} (hne : outcomes ≠ [])
    (h : ∀ outcome ∈ outcomes, RestatesAs context outcome) :
    ∃ found, resolve outcomes = .full found ∧ found.Restates context := by
  obtain ⟨outcome, rest, rfl⟩ := List.exists_cons_of_ne_nil hne
  obtain ⟨found, rfl, hfound⟩ := h outcome List.mem_cons_self
  have hlater : ∀ other ∈ rest.filterMap fullOf?, other.Restates context := by
    intro other hother
    obtain ⟨outcome, houtcome, hfull⟩ := List.mem_filterMap.mp hother
    obtain ⟨found, rfl, hfound⟩ := h outcome (List.mem_cons_of_mem _ houtcome)
    cases hfull
    exact hfound
  exact ⟨found.withLater (rest.filterMap fullOf?), rfl, hfound.withLater hlater⟩

namespace ExtractorChain

theorem throughFirstFull_sublist (outcomes : List (Except Fault Extracted)) :
    (throughFirstFull outcomes).Sublist outcomes := by
  induction outcomes with
  | nil => exact List.Sublist.slnil
  | cons first rest ih =>
      rw [throughFirstFull]
      split
      · exact (List.nil_sublist rest).cons_cons first
      · exact ih.cons_cons first

theorem counted_sublist (stopsAtFirst : Bool) (outcomes : List (Except Fault Extracted)) :
    (counted stopsAtFirst outcomes).Sublist outcomes := by
  cases stopsAtFirst with
  | false => exact List.Sublist.refl outcomes
  | true => exact throughFirstFull_sublist outcomes

theorem counted_ne_nil (stopsAtFirst : Bool) {outcomes : List (Except Fault Extracted)}
    (h : outcomes ≠ []) : counted stopsAtFirst outcomes ≠ [] := by
  obtain ⟨first, rest, rfl⟩ := List.exists_cons_of_ne_nil h
  cases stopsAtFirst with
  | false => exact List.cons_ne_nil first rest
  | true =>
      rw [counted, if_pos rfl, throughFirstFull]
      split <;> exact List.cons_ne_nil _ _

theorem outcomes_extractor? (settings : Settings) (headers : Headers) (styles : List Style)
    (state : σ) :
    outcomes headers (styles.filterMap (·.extractor? settings)) state =
      (styles.filterMap (·.read? settings)).map fun read => (read headers).outcome := by
  induction styles with
  | nil => rfl
  | cons style styles ih =>
      cases hread : style.read? settings with
      | none =>
          have hnone : (style.extractor? settings : Option (Extractor σ)) = none := by
            rw [Style.extractor?, hread, Option.map_none]
          rw [List.filterMap_cons_none hnone, List.filterMap_cons_none hread, ih]
      | some read =>
          have hsome : (style.extractor? settings : Option (Extractor σ)) =
              some (.ofReading style read) := by
            rw [Style.extractor?, hread, Option.map_some]
          rw [List.filterMap_cons_some hsome, List.filterMap_cons_some hread, List.map_cons, ← ih]
          rfl

end ExtractorChain

namespace InjectorChain

theorem value_writeAll (settings : Settings) (context : SpanContext) (styles : List Style)
    (state : σ) :
    ((writeAll context (styles.filterMap (·.injector? settings))).run state).value =
      (styles.flatMap (Style.written settings context), state) := by
  induction styles with
  | nil => rfl
  | cons style styles ih =>
      cases hwrite : style.write? settings with
      | none =>
          have hnone : (style.injector? settings : Option (Injector σ)) = none := by
            rw [Style.injector?, hwrite, Option.map_none]
          rw [List.filterMap_cons_none hnone, List.flatMap_cons, Style.written, hwrite, ih]
          rfl
      | some write =>
          have hsome : (style.injector? settings : Option (Injector σ)) =
              some (.ofWriting style style.keys write) := by
            rw [Style.injector?, hwrite, Option.map_some]
          have hfirst : (((Injector.ofWriting style style.keys write).write context).run state).value =
              ((write context).value, state) := rfl
          rw [List.filterMap_cons_some hsome, List.flatMap_cons, Style.written, hwrite,
            Option.elim_some, writeAll]
          simp only [StateT.run_bind, Logged.value_bind, hfirst, ih]
          rfl

end InjectorChain

namespace Settings

variable {τ : Type}

/-- What styles write for a context to an empty list of pairs. -/
def injected (settings : Settings) (styles : List Style) (context : SpanContext) (state : σ) :
    Carrier :=
  (((settings.injectorChain styles).value.inject context (.list [])).run state).value.1.2

/-- What the configured styles find in a carrier. -/
def extracted (settings : Settings) (carrier : Carrier) (state : σ) : Extracted :=
  ((settings.extractorChain.value.extract (pure carrier.headers)).run state).value.1

theorem value_inject (settings : Settings) (styles : List Style) (context : SpanContext)
    (carrier : Carrier) (state : σ) :
    (((settings.injectorChain styles).value.inject context carrier).run state).value.1.2 =
      carrier.setAll
        ((Style.once styles).value.flatMap (Style.written settings context.withSession)) := by
  have hwrites := InjectorChain.value_writeAll settings context.withSession
    (Style.once styles).value state
  exact congrArg (fun answer => carrier.setAll answer.1) hwrites

theorem injected_eq (settings : Settings) (styles : List Style) (context : SpanContext)
    (state : σ) :
    settings.injected styles context state =
      .list ((Style.once styles).value.flatMap (Style.written settings context.withSession)) := by
  rw [injected, value_inject, Carrier.setAll_list, List.nil_append]

theorem extracted_eq (settings : Settings) (carrier : Carrier) (state : σ) :
    settings.extracted carrier state =
      Extracted.resolve (ExtractorChain.counted settings.extractFirst
        (((Style.once settings.extractors).value.filterMap (·.read? settings)).map fun read =>
          (read carrier.headers).outcome)) := by
  rw [← ExtractorChain.outcomes_extractor? settings carrier.headers _ state]
  exact settings.extractorChain.value.value_extract (pure carrier.headers) state

/-- Styles that read what they and perhaps others wrote restate the context. -/
theorem extracted_restates {settings : Settings} (hnames : settings.baggageHeaders = ∅)
    {styles : List Style} (hstyles : ∀ style ∈ settings.extractors, style ∈ styles)
    (hsome : ∃ style ∈ settings.extractors, style ≠ .none) {context : SpanContext}
    (h : context.IsPortable) (state : σ) (other : τ) :
    ∃ found, settings.extracted (settings.injected styles context state) other = .full found ∧
      found.Restates context := by
  rw [extracted_eq, injected_eq]
  -- All readers restate the context, so it does not matter where the search stops.
  have hread : ∀ outcome ∈ ((Style.once settings.extractors).value.filterMap
      (·.read? settings)).map fun read => (read
        ⟨(Style.once styles).value.flatMap (Style.written settings context.withSession)⟩).outcome,
      RestatesAs context.withSession outcome := by
    intro outcome houtcome
    obtain ⟨read, hread, rfl⟩ := List.mem_map.mp houtcome
    obtain ⟨style, hstyle, hread⟩ := List.mem_filterMap.mp hread
    apply Style.read_restates hnames h.withSession hread
    intro key hkey
    exact Style.get?_flatMap_written hnames h.withSession (Style.nodup_once styles)
      (Style.mem_once.mpr (hstyles style (Style.mem_once.mp hstyle))) hkey
  have hne : ((Style.once settings.extractors).value.filterMap (·.read? settings)) ≠ [] := by
    obtain ⟨style, hstyle, hheaders⟩ := hsome
    obtain ⟨read, hread⟩ := Style.exists_read? settings hheaders
    exact List.ne_nil_of_mem (List.mem_filterMap.mpr ⟨style, Style.mem_once.mpr hstyle, hread⟩)
  obtain ⟨found, hfound, hrestates⟩ := Extracted.resolve_of_restates
    (ExtractorChain.counted_ne_nil settings.extractFirst (mt List.map_eq_nil_iff.mp hne))
    fun outcome houtcome => hread outcome ((ExtractorChain.counted_sublist _ _).subset houtcome)
  exact ⟨found, hfound, SpanContext.restates_withSession.mp hrestates⟩

/-- A chain of styles that reads what it wrote for a portable context finds that context again: the
same trace, the same span and the same decision, and no other trace to link to. -/
theorem extracted_injected {settings : Settings} (hnames : settings.baggageHeaders = ∅)
    {styles : List Style} (hstyles : settings.extractors = styles)
    (hsome : ∃ style ∈ styles, style ≠ .none) {context : SpanContext} (h : context.IsPortable)
    (state : σ) (other : τ) :
    ∃ found, settings.extracted (settings.injected styles context state) other = .full found ∧
      found.links = [] ∧ found.traceId.sameTrace context.traceId = true ∧
      found.spanId = context.spanId ∧
      ∀ priority, context.priority = some priority →
        ∃ decision, found.priority = some decision ∧ decision.isKeep = priority.isKeep := by
  subst hstyles
  obtain ⟨found, hfound, hrestates⟩ := extracted_restates hnames (fun _ => id) hsome h state other
  exact ⟨found, hfound, hrestates.links,
    hrestates.traceId.sameTrace context.traceId.isViewOf_self, hrestates.spanId,
    hrestates.decision⟩

def repeatedStyles : List Style :=
  [.xray, .none, .b3Single, .datadog, .xray, .traceContext, .haystack, .b3Multi, .datadog]

/-- A context with everything that formats hold differently. -/
def variedContext : SpanContext where
  traceId := .bits128 0x1234 0x5678
  spanId := 0x9a
  priority := some ⟨-1⟩
  origin := some "lambda, \"eu\""
  tags := ⟨[("session_id", "id=7;a")], by decide⟩
  propagationTags :=
    { tags := ⟨[("_dd.p.a b", "x=y;z"), ("_dd.p.dm", "-4"), ("_dd.p.tid", "ff")], by decide⟩
      tracestate := some "vendor=1,dd=s:2"
      propagated := by decide }
  baggage := ⟨[("user_1", "x;y=z")], by decide⟩
  links := [.terminated default]

theorem isPortable_variedContext : variedContext.IsPortable where
  trace := by decide
  span := by decide
  origin := by
    rintro _ ⟨⟩
    decide
  tags := by decide
  session := by
    rintro _ ⟨⟩
    decide
  baggage := by
    intro item hitem
    rw [List.mem_singleton.mp hitem]
    exact ⟨by decide, List.all_eq_true.mp (by decide), by decide⟩

theorem extracted_injected_repeated :
    ∃ found, ({ extractStyles := some repeatedStyles } : Settings).extracted
        (({ extractStyles := some repeatedStyles } : Settings).injected repeatedStyles
          variedContext ()) () = .full found ∧
      found.links = [] ∧ found.traceId.sameTrace (.bits128 0x1234 0x5678) = true ∧
      found.spanId = 0x9a ∧
      ∀ priority, variedContext.priority = some priority →
        ∃ decision, found.priority = some decision ∧ decision.isKeep = priority.isKeep :=
  extracted_injected rfl rfl ⟨.xray, List.mem_cons_self, by decide⟩ isPortable_variedContext () ()

end Settings

end TraceHeaders
