import Mathlib.Logic.Relation
import TraceHeaders.Proofs.Chain.Agreement
import TraceHeaders.Proofs.Format.Found

namespace TraceHeaders

open Format Text

variable {σ : Type}

namespace SpanContext

variable {canonical own : SpanContext} {later : List SpanContext}

/-- When only one of the contexts can lend its trace state, and it is of the same trace, its trace
state is the one that counts. -/
theorem tracestate_withLater (hown : own ∈ canonical :: later)
    (hstyle : own.style = some .traceContext)
    (honly : ∀ other ∈ canonical :: later, other.style = some .traceContext → other = own)
    (hsame : canonical.traceId.sameTrace own.traceId = true) :
    (canonical.withLater later).propagationTags.tracestate = own.propagationTags.tracestate := by
  rw [(isJoined_iff.mpr rfl : canonical.IsJoined later _).tracestate, lender]
  cases hlast : (later.filter canonical.takesStateFrom).getLast? with
  | none =>
      rw [List.getLast?_eq_none_iff, List.filter_eq_nil_iff] at hlast
      rcases List.mem_cons.mp hown with rfl | hlater
      · rfl
      · have hlends : canonical.takesStateFrom own = true := by simp [takesStateFrom, hsame, hstyle]
        exact absurd hlends (hlast own hlater)
  | some lender =>
      obtain ⟨hlater, hlends⟩ := List.mem_filter.mp (List.mem_of_getLast? hlast)
      have hlender : lender.style = some .traceContext := by
        rw [takesStateFrom, Bool.and_eq_true, decide_eq_true_eq] at hlends
        exact hlends.2
      rw [Option.getD_some, honly lender (List.mem_cons_of_mem canonical hlater) hlender]

end SpanContext

namespace Settings

variable {settings : Settings} {headers : Headers} {found own : SpanContext}

/-- The contexts that the configured styles find, in their order. -/
def fullContexts (settings : Settings) (headers : Headers) : List SpanContext :=
  (((Style.once settings.extractors).value.filterMap (·.read? settings)).map fun read =>
    (read headers).outcome).filterMap Extracted.fullOf?

theorem mem_fullContexts {context : SpanContext} :
    context ∈ settings.fullContexts headers ↔
      ∃ style read, style ∈ settings.extractors ∧ style.read? settings = some read ∧
        (read headers).outcome = .ok (.full context) := by
  simp only [fullContexts, List.mem_filterMap, List.mem_map, Style.mem_once,
    Extracted.fullOf?_eq_some_iff]
  constructor
  · rintro ⟨_, ⟨read, ⟨style, hstyle, hread⟩, rfl⟩, houtcome⟩
    exact ⟨style, read, hstyle, hread, houtcome⟩
  · rintro ⟨style, read, hstyle, hread, houtcome⟩
    exact ⟨_, ⟨read, ⟨style, hstyle, hread⟩, rfl⟩, houtcome⟩

theorem tracestate_extracted (hall : settings.extractFirst = false)
    (hstyle : .traceContext ∈ settings.extractors) {carrier : Carrier} {state : σ}
    (hfound : settings.extracted carrier state = .full found)
    (hown : (TraceContext.read settings carrier.headers).outcome = .ok (.full own))
    (hsame : found.traceId.sameTrace own.traceId = true) :
    found.propagationTags.tracestate = own.propagationTags.tracestate := by
  rw [extracted_eq, hall] at hfound
  obtain ⟨canonical, later, hfull, rfl⟩ := Extracted.exists_of_resolve hfound
  have hcontexts : settings.fullContexts carrier.headers = canonical :: later := hfull
  have hmem : own ∈ canonical :: later := by
    rw [← hcontexts, mem_fullContexts]
    exact ⟨.traceContext, _, hstyle, rfl, hown⟩
  refine SpanContext.tracestate_withLater hmem
    (TraceContext.ensures_read settings carrier.headers _ hown).bears ?_ hsame
  -- Of the styles that are asked, one alone bears the name of those headers.
  intro other hother hbears
  rw [← hcontexts, mem_fullContexts] at hother
  obtain ⟨style, read, _, hread, hfull⟩ := hother
  have hsameStyle : style = .traceContext := by
    rw [(Style.ensures_read? hread carrier.headers _ hfull).bears] at hbears
    exact Option.some.inj hbears
  subst hsameStyle
  cases hread
  rw [hown] at hfull
  exact (Extracted.full.inj (Except.ok.inj hfull)).symm

/-- What a service may find in the headers of a request: it reads the W3C headers alone, or it asks a
chain of styles with those headers among them, which name the trace that the chain settles on. -/
inductive Finds (settings : Settings) (headers : Headers) : SpanContext → Prop
  | alone {found : SpanContext} :
      (TraceContext.read settings headers).outcome = .ok (.full found) →
      Finds settings headers found
  | inChain {σ : Type} {carrier : Carrier} {state : σ} {found own : SpanContext} :
      settings.extractFirst = false → .traceContext ∈ settings.extractors →
      carrier.headers = headers → settings.extracted carrier state = .full found →
      (TraceContext.read settings headers).outcome = .ok (.full own) →
      found.traceId.sameTrace own.traceId = true →
      Finds settings headers found

theorem Finds.tracestate_eq (h : settings.Finds headers found) :
    found.propagationTags.tracestate =
      (TraceContext.readState headers).value.map Prod.fst := by
  cases h with
  | alone hfound => exact TraceContext.tracestate_of_read hfound
  | inChain hall hstyle hheaders hfound hown hsame =>
      subst hheaders
      rw [tracestate_extracted hall hstyle hfound hown hsame]
      exact TraceContext.tracestate_of_read hown

end Settings

/-- A service passes a trace on: it finds a context, edits all of it but the stored trace state, and
writes it for the next service. -/
inductive Hop (headers : Headers) : Headers → Prop
  | pass {settings : Settings} {found edited : SpanContext} :
      settings.baggageHeaders = ∅ → settings.Finds headers found →
      edited.propagationTags.tracestate = found.propagationTags.tracestate →
      TraceContext.Identified edited →
      Hop headers ⟨(TraceContext.write settings edited).value⟩

/-- Headers that name a trace and hold some members of other vendors. -/
structure CarriesMembers (foreign : List String) (headers : Headers) : Prop where
  traceparent : ∃ text parent, headers.get? TraceContext.traceparentHeader = some text ∧
    TraceContext.TraceParent.parse (trim text) = .ok parent
  tracestate : ∃ text, headers.get? TraceContext.tracestateHeader = some text ∧
    TraceContext.TraceState.isPrintable text = true ∧ TraceContext.foreignMembers text = foreign

/-- Headers with one trace state, of which all members but the first are those of other vendors. -/
def ShowsMembers (foreign : List String) (headers : Headers) : Prop :=
  ∃ content text, headers.toList.filter (·.isNamed TraceContext.tracestateHeader) =
      [⟨TraceContext.tracestateHeader, text⟩] ∧
    pieces ',' text = (TraceContext.memberStart ++ content) :: foreign

theorem printable_of_isPrintable {text : String}
    (h : TraceContext.TraceState.isPrintable text = true) {member : String}
    (hmember : member ∈ TraceContext.members text) :
    ∀ c ∈ member.toList, isPrintableAscii c = true := by
  rw [TraceContext.TraceState.isPrintable, List.all_eq_true] at h
  exact List.all_eq_true.mp (h member hmember)

theorem showsMembers_write {settings : Settings} (hnames : settings.baggageHeaders = ∅)
    {context : SpanContext} (h : TraceContext.Identified context) :
    ShowsMembers (TraceContext.passedOn context)
      ⟨(TraceContext.write settings context).value⟩ := by
  have hother : sameIgnoringCase TraceContext.traceparentHeader TraceContext.tracestateHeader =
      false := by decide
  have hown : sameIgnoringCase TraceContext.tracestateHeader TraceContext.tracestateHeader =
      true := by decide
  have hkey : TraceContext.tracestateHeader ∈ Style.traceContext.keys := by decide
  have hbaggage : (writeBaggage settings openTracingStart encodePercent context.baggage).filter
      (·.isNamed TraceContext.tracestateHeader) = [] := by
    rw [List.filter_eq_nil_iff]
    intro header hheader
    obtain ⟨item, _, rfl⟩ := List.mem_map.mp hheader
    simp only [baggageName_eq hnames, isNamed_eq_false_of_openTracing item.1 _ hkey]
    exact Bool.false_ne_true
  refine ⟨_, _, ?_, TraceContext.pieces_renderTraceState context⟩
  rw [TraceContext.value_write h, List.filter_append, hbaggage, List.append_nil]
  simp [TraceContext.ownHeaders, Header.isNamed, hother, hown]

namespace CarriesMembers

variable {foreign : List String} {headers out : Headers}

theorem tracestate_of_finds (h : CarriesMembers foreign headers) {settings : Settings}
    {found : SpanContext} (hfound : settings.Finds headers found) :
    ∃ text, found.propagationTags.tracestate = some text ∧
      TraceContext.TraceState.isPrintable text = true ∧
      TraceContext.foreignMembers text = foreign := by
  obtain ⟨text, hget, hprintable, hforeign⟩ := h.tracestate
  refine ⟨text, ?_, hprintable, hforeign⟩
  rw [hfound.tracestate_eq, TraceContext.value_readState, hget, Option.bind_some,
    TraceContext.TraceState.parse?, if_pos hprintable]
  rfl

theorem exists_read (h : CarriesMembers foreign headers) (settings : Settings) :
    ∃ found, (TraceContext.read settings headers).outcome = .ok (.full found) := by
  obtain ⟨text, parent, hget, hparse⟩ := h.traceparent
  exact ⟨_, TraceContext.outcome_read hget hparse⟩

/-- One service passes the members on. -/
theorem hop (h : CarriesMembers foreign headers) (hhop : Hop headers out) :
    CarriesMembers foreign out ∧ ShowsMembers foreign out := by
  cases hhop with
  | @pass settings found edited hnames hfound hkept hidentified =>
      obtain ⟨text, hstate, hprintable, hforeign⟩ := h.tracestate_of_finds hfound
      have hpassed : TraceContext.passedOn edited = foreign := by
        rw [TraceContext.passedOn, hkept, hstate]
        exact hforeign
      refine ⟨⟨?_, ?_⟩, ?_⟩
      · have hparse := TraceContext.parse_render hidentified.1 hidentified.2
          (edited.priority.any (·.isKeep))
        rw [← TraceContext.trim_render] at hparse
        exact ⟨_, _, TraceContext.get?_traceparent_write hidentified settings, hparse⟩
      · refine ⟨_, TraceContext.get?_tracestate_write hidentified settings, ?_, ?_⟩
        · apply TraceContext.isPrintable_of_passedOn
          rw [hpassed, ← hforeign]
          intro member hmember
          exact printable_of_isPrintable hprintable (TraceContext.mem_foreignMembers hmember).1
        · rw [TraceContext.foreignMembers_renderTraceState, hpassed]
      · rw [← hpassed]
        exact showsMembers_write hnames hidentified

/-- Any number of services pass the members on. -/
theorem run (h : CarriesMembers foreign headers) (hrun : Relation.TransGen Hop headers out) :
    CarriesMembers foreign out ∧ ShowsMembers foreign out := by
  induction hrun with
  | single hhop => exact h.hop hhop
  | tail _ hhop ih => exact ih.1.hop hhop

end CarriesMembers

/-- The members of other vendors survive any number of services: the first 31 of those that are not
empty follow the member of this vendor, in their order, and the headers can be read again. -/
theorem members_survive {headers out : Headers} {traceparent tracestate : String}
    {parent : TraceContext.TraceParent}
    (hparent : headers.get? TraceContext.traceparentHeader = some traceparent)
    (hparse : TraceContext.TraceParent.parse (trim traceparent) = .ok parent)
    (hstate : headers.get? TraceContext.tracestateHeader = some tracestate)
    (hprintable : ∀ member ∈ (pieces ',' tracestate).map trim,
      ∀ c ∈ member.toList, isPrintableAscii c = true)
    (hrun : Relation.TransGen Hop headers out) :
    (∃ content text, out.toList.filter (·.isNamed "tracestate") = [⟨"tracestate", text⟩] ∧
      pieces ',' text = ("dd=" ++ content) ::
        (((pieces ',' tracestate).map trim).filter fun member =>
          !member.isEmpty && !begins "dd=" member).take 31) ∧
    ∀ settings : Settings,
      ∃ found, (TraceContext.read settings out).outcome = .ok (.full found) := by
  have hall : TraceContext.TraceState.isPrintable tracestate = true := by
    rw [TraceContext.TraceState.isPrintable, List.all_eq_true]
    exact fun member hmember => List.all_eq_true.mpr (hprintable member hmember)
  have hcarries : CarriesMembers (TraceContext.foreignMembers tracestate) headers :=
    ⟨⟨traceparent, parent, hparent, hparse⟩, ⟨tracestate, hstate, hall, rfl⟩⟩
  obtain ⟨hout, hshows⟩ := hcarries.run hrun
  exact ⟨hshows, hout.exists_read⟩

/-- A trace state of several vendors, with an empty member and white space that is not printable. -/
def vendorState : String := "vendor=a b,dd=s:2;t.usr:x, ,\u2003other=1"

def vendorHeaders : Headers where
  toList :=
    [⟨"x-datadog-trace-id", "10"⟩, ⟨"x-datadog-parent-id", "11"⟩,
      ⟨"TraceParent", "00-0000000000000001000000000000000a-000000000000000b-01"⟩,
      ⟨"tracestate", vendorState⟩]

/-- What a chain finds in these headers: the context of the first style, with the trace state that the
second one lends it. -/
def lentContext : SpanContext where
  traceId := .bits64 10
  spanId := 11
  propagationTags := (∅ : PropagationTags).setTracestate (some vendorState)
  style := some .datadog
  isRemote := true

def lendingContext : SpanContext where
  traceId := .bits128 1 10
  spanId := 11
  priority := some .userKeep
  propagationTags :=
    { tags := ⟨[("_dd.p.usr", "x")], by decide⟩
      tracestate := some vendorState
      propagated := by decide }
  style := some .traceContext
  isRemote := true

/-- That context as a service passes it on, with an origin that the member has to mask. -/
def passedContext : SpanContext := { lentContext with spanId := 12, origin := some "a,b;c" }

theorem members_survive_two_hops :
    vendorHeaders.get? "traceparent" =
      some "00-0000000000000001000000000000000a-000000000000000b-01" ∧
    vendorHeaders.get? "tracestate" = some vendorState ∧
    ∃ out, Relation.TransGen Hop vendorHeaders out ∧
      ∃ content text, out.toList.filter (·.isNamed "tracestate") = [⟨"tracestate", text⟩] ∧
        pieces ',' text = ("dd=" ++ content) :: ["vendor=a b", "other=1"] := by
  have hparent : vendorHeaders.get? "traceparent" =
      some "00-0000000000000001000000000000000a-000000000000000b-01" := by decide
  have hparse : TraceContext.TraceParent.parse
      (trim "00-0000000000000001000000000000000a-000000000000000b-01") =
        .ok ⟨"00", .bits128 1 10, 11, true⟩ := by decide
  have hstate : vendorHeaders.get? "tracestate" = some vendorState := by decide
  have hall : ((pieces ',' vendorState).map trim).all
      (fun member => member.toList.all isPrintableAscii) = true := by decide
  have hprintable : ∀ member ∈ (pieces ',' vendorState).map trim,
      ∀ c ∈ member.toList, isPrintableAscii c = true := fun member hmember =>
    List.all_eq_true.mp (List.all_eq_true.mp hall member hmember)
  -- The first service asks a chain of styles, the second one reads the W3C headers alone.
  have hlent : ({} : Settings).extracted (.list vendorHeaders.toList) () = .full lentContext := by
    decide +kernel
  have hlending : (TraceContext.read {} vendorHeaders).outcome = .ok (.full lendingContext) := by
    decide +kernel
  have hfinds : ({} : Settings).Finds vendorHeaders lentContext :=
    .inChain rfl (by decide) rfl hlent hlending (by decide)
  have hpassed : TraceContext.Identified passedContext := ⟨by decide, by decide⟩
  have hfirst : Hop vendorHeaders ⟨(TraceContext.write {} passedContext).value⟩ :=
    .pass rfl hfinds rfl hpassed
  obtain ⟨found, hfound⟩ : ∃ found, (TraceContext.read {}
      ⟨(TraceContext.write {} passedContext).value⟩).outcome = .ok (.full found) :=
    ⟨_, TraceContext.outcome_read_written {} hpassed (TraceContext.get?_traceparent_write hpassed {})⟩
  have hspan : (13 : UInt64) ≠ 0 := by decide
  have hedited : TraceContext.Identified { found with traceId := .bits64 10, spanId := 13 } :=
    ⟨rfl, hspan⟩
  have hrun : Relation.TransGen Hop vendorHeaders
      ⟨(TraceContext.write {} { found with traceId := .bits64 10, spanId := 13 }).value⟩ :=
    .tail (.single hfirst) (.pass rfl (.alone hfound) rfl hedited)
  have hforeign : (((pieces ',' vendorState).map trim).filter fun member =>
      !member.isEmpty && !begins "dd=" member).take 31 = ["vendor=a b", "other=1"] := by decide
  obtain ⟨hshows, _⟩ := members_survive hparent hparse hstate hprintable hrun
  rw [hforeign] at hshows
  exact ⟨hparent, hstate, _, hrun, hshows⟩

end TraceHeaders
