import TraceHeaders.Proofs.Text.Pieces
import TraceHeaders.Proofs.TextMap
import TraceHeaders.SideData

namespace TraceHeaders

theorem ClientHeader.name_of_ofName? {name : String} {client : ClientHeader}
    (h : ofName? name = some client) : client.name = name := by
  rw [ofName?] at h
  have hname := List.find?_some h
  exact eq_of_beq hname

theorem ClientHeaders.isEmpty_iff {headers : ClientHeaders} :
    headers.isEmpty = true ↔ headers = ∅ := by
  obtain ⟨values⟩ := headers
  have hvalues : values.isEmpty = true ↔ values = ∅ := TextMap.isEmpty_iff
  constructor
  · intro h
    exact congrArg ClientHeaders.mk (hvalues.mp h)
  · intro h
    exact hvalues.mpr (congrArg ClientHeaders.values h)

namespace SideData

open Text

theorem value_collect_eq_empty {settings : Settings} {start : Option String} {headers : Headers}
    (h : ∀ header ∈ headers.toList, (add settings start {} header).value = {}) :
    (collect settings start headers).value = {} := by
  obtain ⟨entries⟩ := headers
  rw [collect, Logged.value_foldlM]
  induction entries with
  | nil => rfl
  | cons header entries ih =>
      rw [List.foldl_cons, h header List.mem_cons_self]
      exact ih fun other hother => h other (List.mem_cons_of_mem header hother)

theorem complete_empty (context : SpanContext) :
    complete {} context = .full { context with clientHeaders := ∅ } := by
  rw [complete, TextMap.unionNew_empty, TextMap.union_empty]

/-- The span context that the side data completes. -/
def completed (side : SideData) (context : SpanContext) : SpanContext :=
  { context with
    tags := context.tags.unionNew side.tags
    baggage := context.baggage.union side.baggage
    clientHeaders := side.clientHeaders }

theorem complete_eq (side : SideData) (context : SpanContext) :
    side.complete context = .full (side.completed context) := rfl

theorem eq_of_values {side other : SideData} (htags : side.tags = other.tags)
    (hbaggage : side.baggage = other.baggage)
    (hclients : side.clientHeaders.values = other.clientHeaders.values) : side = other := by
  obtain ⟨tags, baggage, ⟨clients⟩⟩ := side
  obtain ⟨_, _, ⟨_⟩⟩ := other
  cases htags
  cases hbaggage
  cases hclients
  rfl

variable {settings : Settings} {start : Option String}

/-- The baggage item that a header holds. -/
def item? (settings : Settings) (start : Option String) (header : Header) : Option (String × String) :=
  (baggageKey? settings start header.lowerName).map fun key =>
    (key, (HeaderValue.decode header.value).value)

/-- The span tag that a header is recorded under, with its value. -/
def tagItem? (settings : Settings) (header : Header) : Option (String × String) :=
  (settings.headerTags.get? header.lowerName).map fun tag => (tag, header.value)

/-- What a header tells about the client. -/
def clientItem? (header : Header) : Option (String × String) :=
  (ClientHeader.ofName? header.lowerName).map fun client =>
    (client.name, client.kept header.value)

theorem view_foldl {view : SideData → TextMap} {step : SideData → Header → SideData}
    {itemOf? : Header → Option (String × String)}
    (h : ∀ data header, view (step data header) = (view data).insertMany (itemOf? header).toList)
    (entries : List Header) (data : SideData) :
    view (entries.foldl step data) = (view data).insertMany (entries.filterMap itemOf?) := by
  induction entries generalizing data with
  | nil => rfl
  | cons header entries ih =>
      rw [List.foldl_cons, ih, h, ← TextMap.insertMany_append]
      cases hitem : itemOf? header with
      | none => rw [List.filterMap_cons_none hitem]; rfl
      | some item => rw [List.filterMap_cons_some hitem]; rfl

theorem tags_add (data : SideData) (header : Header) :
    (add settings start data header).value.tags =
      data.tags.insertMany (tagItem? settings header).toList := by
  have htags : (add settings start data header).value.tags = (addTag settings header data).tags := by
    simp only [add, addBaggage, addClientHeader]
    cases baggageKey? settings start header.lowerName <;> rfl
  rw [htags, addTag, tagItem?]
  cases settings.headerTags.get? header.lowerName <;> rfl

theorem tags_collect (headers : Headers) :
    (collect settings start headers).value.tags =
      TextMap.ofList (headers.toList.filterMap (tagItem? settings)) := by
  rw [collect, Logged.value_foldlM]
  exact view_foldl tags_add headers.toList {}

theorem clientHeaders_add (data : SideData) (header : Header) :
    (add settings start data header).value.clientHeaders =
      data.clientHeaders.record header.lowerName header.value := by
  have hclients (data : SideData) :
      (addBaggage settings start header data).value.clientHeaders = data.clientHeaders := by
    rw [addBaggage]
    cases baggageKey? settings start header.lowerName <;> rfl
  have htag : (addTag settings header data).clientHeaders = data.clientHeaders := by
    rw [addTag]
    split <;> rfl
  rw [← htag, ← hclients (addTag settings header data)]
  rfl

theorem clientHeaders_collect (headers : Headers) (name : String) :
    (collect settings start headers).value.clientHeaders.values.get? name =
      TextMap.valueOf? name (headers.toList.filterMap clientItem?) := by
  have hrecord (client : ClientHeaders) (header : Header) :
      (client.record header.lowerName header.value).values.get? name =
        (client.values.get? name).or (TextMap.valueOf? name (clientItem? header).toList) := by
    rw [ClientHeaders.record, clientItem?]
    cases ClientHeader.ofName? header.lowerName with
    | none => exact Option.or_none.symm
    | some kind => exact TextMap.get?_insertIfNew _ _ _ _
  have hfold (entries : List Header) (data : SideData) :
      (entries.foldl (fun data header => (add settings start data header).value)
          data).clientHeaders.values.get? name =
        (data.clientHeaders.values.get? name).or
          (TextMap.valueOf? name (entries.filterMap clientItem?)) := by
    induction entries generalizing data with
    | nil => exact Option.or_none.symm
    | cons header entries ih =>
        rw [List.foldl_cons, ih, clientHeaders_add, hrecord, Option.or_assoc]
        cases hitem : clientItem? header with
        | none => rw [List.filterMap_cons_none hitem]; rfl
        | some item =>
            rw [List.filterMap_cons_some hitem]
            simp only [Option.toList_some, TextMap.valueOf?]
            split <;> rfl
  rw [collect, Logged.value_foldlM, hfold]
  exact Option.none_or

theorem baggage_add (data : SideData) (header : Header) :
    (add settings start data header).value.baggage =
      data.baggage.insertMany (item? settings start header).toList := by
  have htag : (addTag settings header data).baggage = data.baggage := by
    rw [addTag]
    split <;> rfl
  simp only [add, addBaggage, item?]
  cases baggageKey? settings start header.lowerName with
  | none => exact htag
  | some key => simp only [Logged.value_bind, Logged.value_pure, addClientHeader, htag]; rfl

theorem baggage_collect (headers : Headers) :
    (collect settings start headers).value.baggage =
      TextMap.ofList (headers.toList.filterMap (item? settings start)) := by
  rw [collect, Logged.value_foldlM]
  exact view_foldl baggage_add headers.toList {}

theorem baggage_collect_none (hkeys : settings.baggageKeys = ∅) (headers : Headers) :
    (collect settings none headers).value.baggage = ∅ := by
  have hitems : headers.toList.filterMap (item? settings none) = [] := by
    rw [List.filterMap_eq_nil_iff]
    intro header _
    rw [item?, baggageKey?, hkeys, TextMap.get?_empty]
    rfl
  rw [baggage_collect, hitems]
  rfl

theorem key_of_mem_baggage_collect (hkeys : settings.baggageKeys = ∅) {headers : Headers}
    {item : String × String}
    (h : item ∈ (collect settings start headers).value.baggage.toList) :
    item.1 ≠ "" ∧ lowerAscii item.1 = item.1 := by
  rw [baggage_collect, ← TextMap.get?_eq_some_iff, TextMap.get?_ofList] at h
  obtain ⟨header, _, hheader⟩ := List.mem_filterMap.mp (mem_of_lastOf? h)
  obtain ⟨key, hkey, hitem⟩ := Option.map_eq_some_iff.mp hheader
  rw [baggageKey?, hkeys, TextMap.get?_empty] at hkey
  obtain ⟨hafter, hnonempty⟩ := Option.filter_eq_some_iff.mp hkey
  obtain ⟨start, _, hafter⟩ := Option.bind_eq_some_iff.mp hafter
  rw [← congrArg Prod.fst hitem]
  refine ⟨?_, lowerAscii_of_after? hafter⟩
  rintro rfl
  exact absurd hnonempty (by decide)

end SideData

end TraceHeaders
