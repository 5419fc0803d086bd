import TraceHeaders.Format
import TraceHeaders.Proofs.Codec
import TraceHeaders.Proofs.Headers
import TraceHeaders.Proofs.SideData

namespace TraceHeaders

open Format Text

namespace Style

/-- What the names of the baggage headers of a style begin with. -/
def baggageStart? : Style → Option String
  | datadog | traceContext => some openTracingStart
  | haystack => some (lowerAscii Haystack.baggageStart)
  | b3Multi | b3Single | xray | none => Option.none

/-- Headers that a style cannot tell apart. -/
structure SeesAlike (settings : Settings) (style : Style) (headers others : Headers) : Prop where
  own : ∀ key ∈ style.keys, headers.get? key = others.get? key
  side : (SideData.collect settings style.baggageStart? headers).value =
    (SideData.collect settings style.baggageStart? others).value

end Style

variable {settings : Settings} {headers others : Headers}

namespace Format

theorem Datadog.outcome_read_congr (h : Style.SeesAlike settings .datadog headers others) :
    (Datadog.read settings headers).outcome = (Datadog.read settings others).outcome := by
  have hside : (SideData.collect settings (some openTracingStart) headers).value =
      (SideData.collect settings (some openTracingStart) others).value := h.side
  have htrace : readTraceId headers = readTraceId others := by
    rw [readTraceId, h.own traceIdHeader (by decide), readTraceId]
  have hparent : readParentId headers = readParentId others := by
    rw [readParentId, h.own parentIdHeader (by decide), readParentId]
  have hpriority : readPriority headers = readPriority others := by
    rw [readPriority, h.own priorityHeader (by decide), readPriority]
  rw [read, read, Reading.outcome_liftM_bind, Reading.outcome_liftM_bind, hside, htrace, hparent,
    hpriority, h.own originHeader (by decide), h.own tagsHeader (by decide)]

theorem B3.Multi.outcome_read_congr (h : Style.SeesAlike settings .b3Multi headers others) :
    (B3.Multi.read settings headers).outcome = (B3.Multi.read settings others).outcome := by
  have hside : (SideData.collect settings none headers).value =
      (SideData.collect settings none others).value := h.side
  have hpriority : readPriority headers = readPriority others := by
    rw [readPriority, h.own flagsHeader (by decide), h.own sampledHeader (by decide), readPriority]
  rw [read, read, Reading.outcome_liftM_bind, Reading.outcome_liftM_bind, hside, hpriority,
    h.own traceIdHeader (by decide), h.own spanIdHeader (by decide)]

theorem B3.Single.outcome_read_congr (h : Style.SeesAlike settings .b3Single headers others) :
    (B3.Single.read settings headers).outcome = (B3.Single.read settings others).outcome := by
  have hside : (SideData.collect settings none headers).value =
      (SideData.collect settings none others).value := h.side
  rw [read, read, Reading.outcome_liftM_bind, Reading.outcome_liftM_bind, hside,
    h.own header (by decide)]

theorem Haystack.outcome_read_congr (h : Style.SeesAlike settings .haystack headers others) :
    (Haystack.read settings headers).outcome = (Haystack.read settings others).outcome := by
  have hside : (readSideData settings headers).value = (readSideData settings others).value := by
    have hcollect : (SideData.collect settings (some (lowerAscii baggageStart)) headers).value =
        (SideData.collect settings (some (lowerAscii baggageStart)) others).value := h.side
    rw [readSideData, Logged.value_bind, hcollect, readSideData, Logged.value_bind]
  have hpriority : readPriority headers = readPriority others := by
    rw [readPriority, h.own priorityHeader (by decide), readPriority]
  rw [read, read, Reading.outcome_liftM_bind, Reading.outcome_liftM_bind, hside, hpriority,
    h.own traceIdHeader (by decide), h.own spanIdHeader (by decide)]

theorem Xray.outcome_read_congr (h : Style.SeesAlike settings .xray headers others) :
    (Xray.read settings headers).outcome = (Xray.read settings others).outcome := by
  have hside : (SideData.collect settings none headers).value =
      (SideData.collect settings none others).value := h.side
  rw [read, read, Reading.outcome_liftM_bind, Reading.outcome_liftM_bind, hside,
    h.own header (by decide)]

theorem TraceContext.outcome_read_congr
    (h : Style.SeesAlike settings .traceContext headers others) :
    (TraceContext.read settings headers).outcome =
      (TraceContext.read settings others).outcome := by
  have hside : (SideData.collect settings (some openTracingStart) headers).value =
      (SideData.collect settings (some openTracingStart) others).value := h.side
  have hstate : readState headers = readState others := by
    rw [readState, h.own tracestateHeader (by decide), readState]
  rw [read, read, Reading.outcome_liftM_bind, Reading.outcome_liftM_bind, hside, hstate,
    h.own traceparentHeader (by decide)]

end Format

namespace Style

variable {style : Style}

/-- The outcome of a codec depends on its own headers and on the side data alone. -/
theorem outcome_read?_congr {read : Headers → Reading Extracted}
    (hread : style.read? settings = some read) (h : style.SeesAlike settings headers others) :
    (read headers).outcome = (read others).outcome := by
  cases style with
  | datadog => cases hread; exact Datadog.outcome_read_congr h
  | b3Multi => cases hread; exact B3.Multi.outcome_read_congr h
  | b3Single => cases hread; exact B3.Single.outcome_read_congr h
  | haystack => cases hread; exact Haystack.outcome_read_congr h
  | xray => cases hread; exact Xray.outcome_read_congr h
  | traceContext => cases hread; exact TraceContext.outcome_read_congr h
  | none => exact absurd hread (Option.some_ne_none read).symm

end Style

namespace Header

/-- A header under its lowercase name. -/
def lowered (header : Header) : Header := ⟨header.lowerName, header.value⟩

@[simp] theorem lowerName_lowered (header : Header) :
    header.lowered.lowerName = header.lowerName := lowerAscii_lowerAscii header.name

/-- Whether a codec looks at a header: it has one of the names of the style, it is configured to be a
span tag or a baggage item, it is a baggage item by its name, or it tells about the client. -/
def concerns (settings : Settings) (style : Style) (header : Header) : Bool :=
  style.keys.any header.isNamed ||
    settings.headerTags.contains header.lowerName ||
    settings.baggageKeys.contains header.lowerName ||
    style.baggageStart?.any (begins · header.lowerName) ||
    ClientHeader.all.any (·.name == header.lowerName)

theorem concerns_iff {style : Style} {header : Header} :
    header.concerns settings style = true ↔
      (∃ key ∈ style.keys, header.isNamed key = true) ∨
      (∃ tag, settings.headerTags.get? header.lowerName = some tag) ∨
      (∃ key, settings.baggageKeys.get? header.lowerName = some key) ∨
      (∃ start, style.baggageStart? = some start ∧ begins start header.lowerName = true) ∨
      ∃ client ∈ ClientHeader.all, client.name = header.lowerName := by
  simp [concerns, TextMap.contains, Option.isSome_iff_exists, Option.any_eq_true, or_assoc]

end Header

namespace Headers

variable {style : Style}

/-- The headers that a codec looks at, in their order and under their lowercase names. -/
def relevant (settings : Settings) (style : Style) (headers : Headers) : List Header :=
  (headers.toList.filter (·.concerns settings style)).map Header.lowered

/-- What is gathered from headers that a codec looks at, whatever the case of their names. -/
structure Gathers {α : Type} (settings : Settings) (style : Style) (item? : Header → Option α) :
    Prop where
  lowered : ∀ header, item? header.lowered = item? header
  concerns : ∀ header a, item? header = some a → header.concerns settings style = true

theorem Gathers.filterMap_relevant {α : Type} {item? : Header → Option α}
    (h : Gathers settings style item?) (headers : Headers) :
    (headers.relevant settings style).filterMap item? = headers.toList.filterMap item? := by
  rw [relevant, List.filterMap_map, List.filterMap_filter]
  apply List.filterMap_congr
  intro header _
  split
  · exact h.lowered header
  · rename_i hnot
    exact (Option.eq_none_iff_forall_ne_some.mpr fun a ha => hnot (h.concerns header a ha)).symm

theorem gathers_valueUnder? {key : String} (hkey : key ∈ style.keys) :
    Gathers settings style (valueUnder? key) where
  lowered header := by
    have hnamed : header.lowered.isNamed key = header.isNamed key :=
      congrArg (· == lowerAscii key) header.lowerName_lowered
    rw [valueUnder?, hnamed]
    rfl
  concerns header value hvalue := by
    rw [valueUnder?, Option.ite_none_right_eq_some] at hvalue
    exact Header.concerns_iff.mpr (.inl ⟨key, hkey, hvalue.1⟩)

theorem gathers_tagItem? : Gathers settings style (SideData.tagItem? settings) where
  lowered header := by
    rw [SideData.tagItem?, Header.lowerName_lowered]
    rfl
  concerns header item hitem := by
    obtain ⟨tag, htag, _⟩ := Option.map_eq_some_iff.mp hitem
    exact Header.concerns_iff.mpr (.inr (.inl ⟨tag, htag⟩))

theorem gathers_item? : Gathers settings style (SideData.item? settings style.baggageStart?) where
  lowered header := by
    rw [SideData.item?, Header.lowerName_lowered]
    rfl
  concerns header item hitem := by
    obtain ⟨key, hkey, _⟩ := Option.map_eq_some_iff.mp hitem
    rw [Header.concerns_iff]
    rw [SideData.baggageKey?] at hkey
    cases hconfigured : settings.baggageKeys.get? header.lowerName with
    | some configured => exact .inr (.inr (.inl ⟨configured, rfl⟩))
    | none =>
        rw [hconfigured] at hkey
        obtain ⟨hafter, _⟩ := Option.filter_eq_some_iff.mp hkey
        obtain ⟨start, hstart, hafter⟩ := Option.bind_eq_some_iff.mp hafter
        have hbegins : begins start header.lowerName = true :=
          begins_iff.mpr ⟨key, after?_eq_some_iff.mp hafter⟩
        exact .inr (.inr (.inr (.inl ⟨start, hstart, hbegins⟩)))

theorem gathers_clientItem? : Gathers settings style SideData.clientItem? where
  lowered header := by
    rw [SideData.clientItem?, Header.lowerName_lowered]
    rfl
  concerns header item hitem := by
    obtain ⟨client, hclient, _⟩ := Option.map_eq_some_iff.mp hitem
    have hmem : client ∈ ClientHeader.all := List.mem_of_find?_eq_some hclient
    exact Header.concerns_iff.mpr
      (.inr (.inr (.inr (.inr ⟨client, hmem, ClientHeader.name_of_ofName? hclient⟩))))

theorem seesAlike_of_relevant
    (h : headers.relevant settings style = others.relevant settings style) :
    style.SeesAlike settings headers others := by
  have hgathered {α : Type} {item? : Header → Option α} (hitem : Gathers settings style item?) :
      headers.toList.filterMap item? = others.toList.filterMap item? := by
    rw [← hitem.filterMap_relevant headers, h, hitem.filterMap_relevant]
  refine ⟨fun key hkey => ?_, SideData.eq_of_values ?_ ?_ (TextMap.ext_get? fun name => ?_)⟩
  · rw [get?_eq_head?, hgathered (gathers_valueUnder? hkey), get?_eq_head?]
  · rw [SideData.tags_collect, hgathered gathers_tagItem?, SideData.tags_collect]
  · rw [SideData.baggage_collect, hgathered gathers_item?, SideData.baggage_collect]
  · rw [SideData.clientHeaders_collect, hgathered gathers_clientItem?,
      SideData.clientHeaders_collect]

end Headers

/-- A codec ends in the same way on headers that agree on what it looks at, up to the case of names
and whatever else there is between them: with the same context, or with the same failure. -/
theorem Style.outcome_of_relevant {style : Style} {read : Headers → Reading Extracted}
    (hread : style.read? settings = some read)
    (h : headers.relevant settings style = others.relevant settings style) :
    (read headers).outcome = (read others).outcome :=
  outcome_read?_congr hread (Headers.seesAlike_of_relevant h)

/-- Settings under which headers become a span tag and a baggage item by their names alone. -/
def taggingSettings : Settings where
  headerTags := ⟨[("x-request-id", "http.request_id")], by decide⟩
  baggageKeys := ⟨[("x-account", "account")], by decide⟩

def crowdedHeaders : Headers where
  toList :=
    [⟨"Cookie", "a=b"⟩, ⟨"TRACE-ID", "44617461-646f-6721-0000-00000000000a"⟩, ⟨"b3", "1-2-d"⟩,
      ⟨"X-Request-Id", "7"⟩, ⟨"BAGGAGE-User", "j%C3%B6rg"⟩, ⟨"X-Account", "acme+corp"⟩,
      ⟨"ot-baggage-user", "x"⟩, ⟨"Trace-ID", "11"⟩, ⟨"User-Agent", "curl"⟩]

/-- The same headers as far as one style looks at them. -/
def sparseHeaders : Headers where
  toList :=
    [⟨"trace-id", "44617461-646f-6721-0000-00000000000a"⟩, ⟨"x-request-id", "7"⟩,
      ⟨"baggage-user", "j%C3%B6rg"⟩, ⟨"traceparent", "00"⟩, ⟨"x-ACCOUNT", "acme+corp"⟩,
      ⟨"Trace-Id", "11"⟩, ⟨"user-agent", "curl"⟩]

theorem Style.outcome_of_relevant_crowded :
    crowdedHeaders.relevant taggingSettings .haystack =
        sparseHeaders.relevant taggingSettings .haystack ∧
      (Haystack.read taggingSettings crowdedHeaders).outcome =
        (Haystack.read taggingSettings sparseHeaders).outcome := by
  have hrelevant : crowdedHeaders.relevant taggingSettings .haystack =
      sparseHeaders.relevant taggingSettings .haystack := by decide +kernel
  have hread : Style.haystack.read? taggingSettings = some (Haystack.read taggingSettings) := rfl
  exact ⟨hrelevant, outcome_of_relevant hread hrelevant⟩

end TraceHeaders
