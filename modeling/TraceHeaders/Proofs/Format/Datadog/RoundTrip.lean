import TraceHeaders.Proofs.Format.Baggage
import TraceHeaders.Proofs.Format.Datadog
import TraceHeaders.Proofs.Text.FormCoding

namespace TraceHeaders.Format.Datadog

open Text

/-- Tags that stand for themselves in the list of entries, with a well-formed decision. -/
structure IsLegible (tags : PropagationTags) : Prop where
  keys : ∀ tag ∈ tags.tags.toList, ',' ∉ tag.1.toList ∧ '=' ∉ tag.1.toList
  values : ∀ tag ∈ tags.tags.toList, ',' ∉ tag.2.toList
  decision : ∀ value, tags.get? decisionMakerTag = some value →
    ∃ digits, value.toList = '-' :: digits ∧ digits ≠ [] ∧ ∀ c ∈ digits, c.isDigit = true

/-- The propagated tags as the headers carry them.  The upper half of the trace identifier stands in
for a tag that may disagree with it, and there is no trace state. -/
def carriedTags (context : SpanContext) : PropagationTags :=
  ((context.propagationTags.erase upperBitsTag).setTracestate none).insertMany
    (context.traceId.upper?.map fun upper => (upperBitsTag, hexPadded 16 upper.toNat)).toList

theorem ofList_tagEntries (context : SpanContext) :
    PropagationTags.ofList (tagEntries context) = carriedTags context := by
  have hkept : PropagationTags.ofList
      (context.propagationTags.tags.toList.filter (·.1 != upperBitsTag)) =
        (context.propagationTags.erase upperBitsTag).setTracestate none :=
    PropagationTags.ofList_tags (context.propagationTags.erase upperBitsTag)
  rw [tagEntries, PropagationTags.ofList_append, hkept, carriedTags]

theorem get?_carriedTags (context : SpanContext) (key : String) :
    (carriedTags context).get? key =
      if key = upperBitsTag then context.traceId.upper?.map fun upper => hexPadded 16 upper.toNat
      else context.propagationTags.get? key := by
  have hkept : ((context.propagationTags.erase upperBitsTag).setTracestate none).get? key =
      if key = upperBitsTag then none else context.propagationTags.get? key :=
    context.propagationTags.get?_erase upperBitsTag key
  rw [carriedTags]
  cases context.traceId.upper? with
  | none => exact hkept
  | some upper =>
      have hpropagated : isPropagated upperBitsTag = true := by decide
      refine (PropagationTags.get?_insert_propagated hpropagated _ _ key).trans ?_
      split
      · rfl
      · rename_i hkey
        rw [hkept, if_neg hkey]

theorem not_mem_key_of_mem_tagEntries {context : SpanContext}
    (h : IsLegible context.propagationTags) {entry : String × String}
    (hentry : entry ∈ tagEntries context) : '=' ∉ entry.1.toList := by
  rcases List.mem_append.mp hentry with hentry | hentry
  · exact (h.keys entry (List.mem_filter.mp hentry).1).2
  · obtain ⟨upper, _, rfl⟩ := upperEntry_eq hentry
    have hkey : '=' ∉ upperBitsTag.toList := by decide
    exact hkey

theorem value_readTags_of_isLegible {limit : Nat} {context : SpanContext}
    (h : IsLegible context.propagationTags) (hfits : Fits limit context) :
    (readTags (writtenTags? limit context) limit).value = (carriedTags context, none) := by
  have hcommas := fun tag htag => And.intro (h.keys tag htag).1 (h.values tag htag)
  have hread : ((tagEntries context).map entryText).mapM splitEntry = .ok (tagEntries context) :=
    mapM_splitEntry_eq_ok_iff.mpr ⟨rfl, fun _ => not_mem_key_of_mem_tagEntries h⟩
  rw [value_readTags_written hfits,
    flatMap_pieces_entryText fun entry => not_mem_of_mem_tagEntries hcommas, readTexts, hread]
  simp only []
  rw [ofList_tagEntries]
  apply value_checkTags_of_valid
  · intro value hvalue
    rw [PropagationTags.upperBits?, get?_carriedTags, if_pos rfl] at hvalue
    obtain ⟨upper, _, rfl⟩ := Option.map_eq_some_iff.mp hvalue
    exact isUpperBits_hexPadded upper
  · intro value hvalue
    rw [get?_carriedTags, if_neg (by decide)] at hvalue
    exact isDecision_iff.mpr (h.decision value hvalue)

theorem outcome_read_write {settings : Settings} (hnames : settings.baggageHeaders = ∅)
    {context : SpanContext} (htrace : context.traceId.lower ≠ 0) :
    (read settings ⟨(write settings context).value⟩).outcome =
      .ok ((SideData.collect settings (some openTracingStart)
        ⟨(write settings context).value⟩).value.complete
          (identified context.traceId.lower context.spanId context.priority context.origin
            (readTags (writtenTags? settings.tagsLimit context) settings.tagsLimit).value)) := by
  apply outcome_read_own htrace
  intro key hkey
  have hkey : key ∈ Style.datadog.keys := hkey
  rw [value_write]
  exact get?_append_openTracing hnames encodeForm context.baggage _ hkey

theorem baggage_collect_write {settings : Settings} (hkeys : settings.baggageKeys = ∅)
    (hnames : settings.baggageHeaders = ∅) (context : SpanContext) :
    (SideData.collect settings (some openTracingStart)
      ⟨(write settings context).value⟩).value.baggage =
        TextMap.ofList (context.baggage.toList.filterMap restored?) := by
  have hdecode : ∀ value, (HeaderValue.decode (encodeForm value)).value = value := fun value =>
    HeaderValue.value_decode (decodeForm_encodeForm value)
  have hstart : openTracingStart = lowerAscii openTracingStart := by decide
  have hown : ∀ header ∈ ownHeaders settings context,
      SideData.item? settings (some (lowerAscii openTracingStart)) header = none := by
    intro header hheader
    have hname : header.name ∈ Style.datadog.keys := name_of_mem_ownHeaders header hheader
    rw [SideData.item?, SideData.baggageKey?, hkeys, TextMap.get?_empty, Option.bind_some,
      Header.lowerName, (after?_key .datadog header.name hname).1]
    rfl
  rw [value_write, hstart]
  exact baggage_collect_written hkeys hnames hdecode hown context.baggage

theorem utf8ByteSize_le_of_isNamed {settings : Settings} (hnames : settings.baggageHeaders = ∅)
    {context : SpanContext} {header : Header} (hheader : header ∈ (write settings context).value)
    (hname : header.isNamed tagsHeader = true) :
    header.value.utf8ByteSize ≤ settings.tagsLimit := by
  rw [value_write, ownHeaders, value_writeTags, List.mem_append, List.mem_append] at hheader
  rcases hheader with (hheader | hheader) | hheader
  · have hother : ∀ name ∈ [traceIdHeader, parentIdHeader, priorityHeader, originHeader],
        sameIgnoringCase name tagsHeader = false := by decide
    rw [Header.isNamed, hother header.name (name_of_mem_identityHeaders header hheader)] at hname
    exact absurd hname Bool.false_ne_true
  · obtain ⟨text, htext, rfl⟩ := Option.map_eq_some_iff.mp (Option.mem_toList.mp hheader)
    obtain ⟨_, _, hfits, rfl⟩ := writtenTags?_eq_some_iff.mp htext
    exact hfits
  · have hkey : tagsHeader ∈ Style.datadog.keys := by decide
    obtain ⟨item, _, rfl⟩ := List.mem_map.mp hheader
    simp only [baggageName_eq hnames, isNamed_eq_false_of_openTracing item.1 _ hkey] at hname
    exact absurd hname Bool.false_ne_true

/-- What the headers always keep of a context. -/
structure KeepsIdentity (found context : SpanContext) : Prop where
  lower : found.traceId.lower = context.traceId.lower
  spanId : found.spanId = context.spanId
  priority : found.priority = context.priority
  origin : found.origin = context.origin
  baggage : found.baggage = TextMap.ofList (context.baggage.toList.filterMap restored?)

/-- What the headers keep of a context besides, when they hold its propagated tags. -/
structure KeepsTags (found context : SpanContext) : Prop where
  traceId : found.traceId.toNat = context.traceId.toNat
  width : (∃ upper lower, found.traceId = .bits128 upper lower) ↔ context.traceId.upper ≠ 0
  propagationTags : found.propagationTags = carriedTags context
  mechanism : found.mechanism =
    (context.propagationTags.get? decisionMakerTag).bind SamplingMechanism.parse?

/-- What the headers hold of a context with legible tags. -/
def restated (context : SpanContext) : SpanContext where
  traceId := context.traceId.narrow
  spanId := context.spanId
  priority := context.priority
  mechanism := (context.propagationTags.get? decisionMakerTag).bind SamplingMechanism.parse?
  origin := context.origin
  propagationTags := carriedTags context
  style := some .datadog
  isRemote := true

theorem identified_written {limit : Nat} {context : SpanContext}
    (h : IsLegible context.propagationTags) (hfits : Fits limit context) :
    identified context.traceId.lower context.spanId context.priority context.origin
      (readTags (writtenTags? limit context) limit).value = restated context := by
  have hupper : (carriedTags context).upperBits? =
      context.traceId.upper?.map fun upper => hexPadded 16 upper.toNat := by
    rw [PropagationTags.upperBits?, get?_carriedTags, if_pos rfl]
  have hmaker : (carriedTags context).get? decisionMakerTag =
      context.propagationTags.get? decisionMakerTag := by
    rw [get?_carriedTags, if_neg (by decide)]
  rw [value_readTags_of_isLegible h hfits, identified, restated]
  simp only [hupper, hmaker, withUpperHex_upper?, Option.elim_none]

/-- Reading undoes writing.  The identity, the decision, the origin and the baggage come back whatever
the texts of the context hold, and a list of propagated tags is never longer than its limit.  Legible
tags that fit come back as well, with the trace identifier in full and no mark of a defect. -/
theorem read_recovers (settings : Settings) (hkeys : settings.baggageKeys = ∅)
    (hnames : settings.baggageHeaders = ∅) {context : SpanContext}
    (htrace : context.traceId.lower ≠ 0) :
    ∃ found, (read settings ⟨(write settings context).value⟩).outcome = .ok (.full found) ∧
      KeepsIdentity found context ∧
      (∀ header ∈ (write settings context).value, header.isNamed tagsHeader = true →
        header.value.utf8ByteSize ≤ settings.tagsLimit) ∧
      (IsLegible context.propagationTags → settings.tagsLimit ≠ 0 →
        (tagsText context).utf8ByteSize ≤ settings.tagsLimit →
          KeepsTags found context ∧ found.tags = (SideData.collect settings (some openTracingStart)
            ⟨(write settings context).value⟩).value.tags) := by
  refine ⟨_, outcome_read_write hnames htrace, ?_, fun header => utf8ByteSize_le_of_isNamed hnames, ?_⟩
  · refine ⟨lower_withUpperHex _ _, rfl, rfl, rfl, ?_⟩
    rw [← baggage_collect_write hkeys hnames context]
    exact TextMap.empty_union _
  · intro hlegible hlimit hfits
    rw [identified_written hlegible (.inr ⟨hlimit, hfits⟩)]
    refine ⟨⟨?_, ?_, rfl, rfl⟩, TextMap.empty_unionNew _⟩
    · exact TraceId.toNat_narrow context.traceId
    · exact TraceId.exists_narrow_eq_bits128

/-- A context with a stale tag for its upper half, separators in its other texts, and baggage keys
that differ by case alone. -/
def listedContext : SpanContext where
  traceId := .bits128 0x1234 0x5678
  spanId := 0x9a
  priority := some ⟨-1⟩
  origin := some "lambda,eu=1"
  propagationTags :=
    { tags := ⟨[("_dd.p.dm", "-4"), ("_dd.p.tid", "1234"), ("_dd.p.usr", "id=7")], by decide⟩
      tracestate := some "vendor=1"
      propagated := by decide }
  baggage := ⟨[("", "lost"), ("User", "first"), ("user", "a+b, ü")], by decide⟩

theorem read_recovers_listed :
    listedContext.traceId.lower ≠ 0 ∧ IsLegible listedContext.propagationTags ∧
    (tagsText listedContext).utf8ByteSize ≤ 512 ∧
    ∃ found, (read {} ⟨(write {} listedContext).value⟩).outcome = .ok (.full found) ∧
      KeepsIdentity found listedContext ∧ KeepsTags found listedContext := by
  have htrace : listedContext.traceId.lower ≠ 0 := by decide
  have hlegible : IsLegible listedContext.propagationTags := by
    refine ⟨by decide, by decide, ?_⟩
    intro value hvalue
    cases hvalue
    exact ⟨['4'], rfl, by decide, List.all_eq_true.mp (by decide)⟩
  have hfits : (tagsText listedContext).utf8ByteSize ≤ 512 := by decide
  obtain ⟨found, hread, hidentity, _, htags⟩ := read_recovers {} rfl rfl htrace
  exact ⟨htrace, hlegible, hfits, found, hread, hidentity, (htags hlegible (by decide) hfits).1⟩

end TraceHeaders.Format.Datadog
