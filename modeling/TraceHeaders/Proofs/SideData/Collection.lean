import TraceHeaders.Proofs.Headers
import TraceHeaders.Proofs.SideData

namespace TraceHeaders

open Text

theorem TextMap.mem_of_valueOf? {key value : String} {entries : List (String × String)}
    (h : valueOf? key entries = some value) : (key, value) ∈ entries := by
  induction entries with
  | nil => exact absurd h (Option.some_ne_none value).symm
  | cons entry entries ih =>
      rw [valueOf?] at h
      split at h
      · rename_i hkey
        rw [hkey, ← Option.some.inj h]
        exact List.mem_cons_self
      · exact List.mem_cons_of_mem entry (ih h)

theorem ClientHeader.name_injective {client other : ClientHeader} (h : client.name = other.name) :
    client = other := by
  have hname := congrArg ofName? h
  rwa [ofName?_name, ofName?_name, Option.some.injEq] at hname

namespace Headers

/-- The last of the headers of a kind. -/
def LastOf (headers : Headers) (isOfKind : Header → Prop) (header : Header) : Prop :=
  ∃ before after, headers.toList = before ++ header :: after ∧ isOfKind header ∧
    ∀ other ∈ after, ¬ isOfKind other

/-- The first of the headers of a kind. -/
def FirstOf (headers : Headers) (isOfKind : Header → Prop) (header : Header) : Prop :=
  ∃ before after, headers.toList = before ++ header :: after ∧ isOfKind header ∧
    ∀ other ∈ before, ¬ isOfKind other

variable {isOfKind : Header → Prop} {header found : Header} {entries : List Header}

theorem LastOf.kind {headers : Headers} (h : headers.LastOf isOfKind header) :
    isOfKind header := by
  obtain ⟨-, -, -, hkind, -⟩ := h
  exact hkind

theorem lastOf_cons_iff :
    LastOf ⟨header :: entries⟩ isOfKind found ↔ LastOf ⟨entries⟩ isOfKind found ∨
      found = header ∧ isOfKind header ∧ ∀ other ∈ entries, ¬ isOfKind other := by
  constructor
  · rintro ⟨before, after, hentries, hkind, hlast⟩
    cases before with
    | nil =>
        obtain ⟨rfl, rfl⟩ := List.cons.inj hentries
        exact .inr ⟨rfl, hkind, hlast⟩
    | cons first before =>
        obtain ⟨-, hrest⟩ := List.cons.inj hentries
        exact .inl ⟨before, after, hrest, hkind, hlast⟩
  · rintro (⟨before, after, hentries, hkind, hlast⟩ | ⟨rfl, hkind, hlast⟩)
    · exact ⟨header :: before, after, congrArg (header :: ·) hentries, hkind, hlast⟩
    · exact ⟨[], entries, rfl, hkind, hlast⟩

theorem firstOf_cons_iff :
    FirstOf ⟨header :: entries⟩ isOfKind found ↔ found = header ∧ isOfKind header ∨
      ¬ isOfKind header ∧ FirstOf ⟨entries⟩ isOfKind found := by
  constructor
  · rintro ⟨before, after, hentries, hkind, hfirst⟩
    cases before with
    | nil =>
        obtain ⟨rfl, rfl⟩ := List.cons.inj hentries
        exact .inl ⟨rfl, hkind⟩
    | cons first before =>
        obtain ⟨rfl, hrest⟩ := List.cons.inj hentries
        obtain ⟨hother, hfirst⟩ := List.forall_mem_cons.mp hfirst
        exact .inr ⟨hother, before, after, hrest, hkind, hfirst⟩
  · rintro (⟨rfl, hkind⟩ | ⟨hother, before, after, hentries, hkind, hfirst⟩)
    · exact ⟨[], entries, rfl, hkind, fun other hmem => absurd hmem List.not_mem_nil⟩
    · exact ⟨header :: before, after, congrArg (header :: ·) hentries, hkind,
        List.forall_mem_cons.mpr ⟨hother, hfirst⟩⟩

section Items

variable {itemOf? : Header → Option (String × String)} {key : String} {valueOf : Header → String}

/-- The headers of a kind are those with an item of a key. -/
def GivesItems (itemOf? : Header → Option (String × String)) (key : String) (isOfKind : Header → Prop)
    (valueOf : Header → String) : Prop :=
  ∀ header value, itemOf? header = some (key, value) ↔ isOfKind header ∧ valueOf header = value

theorem lastOf?_filterMap_eq_none_iff (h : GivesItems itemOf? key isOfKind valueOf) :
    lastOf? key (entries.filterMap itemOf?) = none ↔ ∀ other ∈ entries, ¬ isOfKind other := by
  constructor
  · intro hnone other hother hkind
    have hitem := (h other (valueOf other)).mpr ⟨hkind, rfl⟩
    obtain ⟨value, hvalue⟩ := exists_lastOf?_of_mem (List.mem_filterMap.mpr ⟨other, hother, hitem⟩)
    exact Option.some_ne_none value (hvalue.symm.trans hnone)
  · intro hnone
    apply lastOf?_eq_none
    rintro ⟨name, value⟩ hitem rfl
    obtain ⟨other, hother, hitem⟩ := List.mem_filterMap.mp hitem
    exact hnone other hother ((h other value).mp hitem).1

theorem lastOf?_filterMap_eq_some_iff (h : GivesItems itemOf? key isOfKind valueOf) {value : String} :
    lastOf? key (entries.filterMap itemOf?) = some value ↔
      ∃ header, LastOf ⟨entries⟩ isOfKind header ∧ valueOf header = value := by
  induction entries with
  | nil => simp [LastOf]
  | cons header entries ih =>
      simp only [lastOf_cons_iff, or_and_right, exists_or, ← ih, and_assoc, exists_eq_left]
      have hhead : (lastOf? key (itemOf? header).toList = some value) ↔
          isOfKind header ∧ valueOf header = value := by
        rw [← h]
        cases itemOf? header with
        | none => simp
        | some item => simp [lastOf?_singleton, Prod.ext_iff]
      have hcons : lastOf? key ((header :: entries).filterMap itemOf?) =
          (lastOf? key (entries.filterMap itemOf?)).or (lastOf? key (itemOf? header).toList) := by
        rw [← lastOf?_append]
        cases hitem : itemOf? header with
        | none => rw [List.filterMap_cons_none hitem]; rfl
        | some item => rw [List.filterMap_cons_some hitem]; rfl
      rw [hcons, Option.or_eq_some_iff, lastOf?_filterMap_eq_none_iff h, hhead]
      tauto

theorem valueOf?_filterMap_eq_some_iff (h : GivesItems itemOf? key isOfKind valueOf) {value : String} :
    TextMap.valueOf? key (entries.filterMap itemOf?) = some value ↔
      ∃ header, FirstOf ⟨entries⟩ isOfKind header ∧ valueOf header = value := by
  induction entries with
  | nil => simp [FirstOf, TextMap.valueOf?]
  | cons header entries ih =>
      simp only [firstOf_cons_iff, or_and_right, exists_or, and_assoc, exists_eq_left, exists_and_left,
        ← ih]
      cases hitem : itemOf? header with
      | none =>
          have hother : ¬ isOfKind header := fun hkind =>
            Option.some_ne_none _ (((h header _).mpr ⟨hkind, rfl⟩).symm.trans hitem)
          simp [List.filterMap_cons_none hitem, hother]
      | some item =>
          rw [List.filterMap_cons_some hitem, TextMap.valueOf?]
          split
          · rename_i hkey
            subst hkey
            obtain ⟨hkind, hvalue⟩ := (h header item.2).mp hitem
            simp [hkind, hvalue]
          · rename_i hkey
            have hother : ¬ isOfKind header := by
              intro hkind
              have hsame := hitem.symm.trans ((h header _).mpr ⟨hkind, rfl⟩)
              exact hkey (congrArg Prod.fst (Option.some.inj hsame)).symm
            simp [hother]

end Items

end Headers

namespace SideData

variable {settings : Settings} {start : Option String} {headers : Headers}

/-- A name in lowercase stands for a key of baggage: settings say so, or they do not mention the name
and it has the key behind the start of baggage headers. -/
inductive NamesBaggage (settings : Settings) (start : Option String) (name key : String) : Prop where
  | configured (h : settings.baggageKeys.get? name = some key)
  | spelled {first : String} (hunmapped : settings.baggageKeys.get? name = none)
      (hstart : start = some first) (hname : name = first ++ key) (hnonempty : key ≠ "")

theorem baggageKey?_eq_some_iff {name key : String} :
    baggageKey? settings start name = some key ↔ NamesBaggage settings start name key := by
  rw [baggageKey?]
  constructor
  · intro h
    split at h
    · rename_i found hfound
      exact .configured (hfound.trans h)
    · rename_i hunmapped
      obtain ⟨hafter, hnonempty⟩ := Option.filter_eq_some_iff.mp h
      obtain ⟨first, hstart, hafter⟩ := Option.bind_eq_some_iff.mp hafter
      refine .spelled hunmapped hstart (after?_eq_some_iff.mp hafter) ?_
      rintro rfl
      exact absurd hnonempty (by decide)
  · rintro (hmapped | ⟨hunmapped, rfl, rfl, hnonempty⟩)
    · rw [hmapped]
    · rw [hunmapped]
      simp [hnonempty]

/-- The headers of which proxies make a list. -/
def listed : List ClientHeader := [.xForwardedProto, .xForwardedHost, .xForwardedPort]

/-- What is kept of the value of a client header: the first entry of a list, and else all of it. -/
inductive IsKept (client : ClientHeader) : String → String → Prop where
  | entry {first rest : String} (hlisted : client ∈ listed) (hfirst : ',' ∉ first.toList) :
      IsKept client (first ++ "," ++ rest) (trim first)
  | whole {value : String} (h : client ∈ listed → ',' ∉ value.toList) : IsKept client value value

theorem isKept_iff {client : ClientHeader} {value kept : String} :
    IsKept client value kept ↔ client.kept value = kept := by
  have hlisted : client.keepsFirstEntry = true ↔ client ∈ listed := by
    cases client <;> decide
  rw [ClientHeader.kept]
  constructor
  · rintro (⟨hclient, hfirst⟩ | h)
    · rw [if_pos (hlisted.mpr hclient), HeaderValue.first, cut?_append (by decide) hfirst]
    · split
      · rename_i hkeeps
        rw [HeaderValue.first, cut?_eq_none_iff.mpr (h (hlisted.mp hkeeps))]
      · rfl
  · rintro rfl
    split
    · rename_i hkeeps
      rw [HeaderValue.first]
      split
      · rename_i first rest hcut
        obtain ⟨hfirst, hvalue⟩ := cut?_eq_some_iff.mp hcut
        rw [hvalue]
        exact .entry (hlisted.mp hkeeps) hfirst
      · rename_i hcut
        exact .whole fun _ => cut?_eq_none_iff.mp hcut
    · rename_i hkeeps
      exact .whole fun hclient => absurd (hlisted.mpr hclient) hkeeps

/-- What is picked up from headers: for a span tag the value of the last header that is configured for
it, for a key of baggage the decoded value of the last header that stands for it, for what is told about
the client the first header of its name, and nothing else. -/
structure Collects (settings : Settings) (start : Option String) (headers : Headers)
    (side : SideData) : Prop where
  tags : ∀ tag value, side.tags.get? tag = some value ↔
    ∃ header, headers.LastOf
      (fun header => settings.headerTags.get? (lowerAscii header.name) = some tag) header ∧
      header.value = value
  baggage : ∀ key value, side.baggage.get? key = some value ↔
    ∃ header, headers.LastOf
      (fun header => NamesBaggage settings start (lowerAscii header.name) key) header ∧
      (HeaderValue.decode header.value).value = value
  clientHeaders : ∀ client value, side.clientHeaders.get? client = some value ↔
    ∃ header, headers.FirstOf (fun header => lowerAscii header.name = client.name) header ∧
      IsKept client header.value value
  recognised : ∀ entry ∈ side.clientHeaders.values.toList, ∃ client : ClientHeader,
    client.name = entry.1

/-- What a context becomes with side data.  Its own tags are kept, its baggage is overridden, and nothing
but what is told about the client changes beside. -/
structure Completes (side : SideData) (context found : SpanContext) : Prop where
  tags : ∀ tag, found.tags.get? tag = (context.tags.get? tag).or (side.tags.get? tag)
  baggage : ∀ key, found.baggage.get? key = (side.baggage.get? key).or (context.baggage.get? key)
  others : found = { context with
    tags := found.tags, baggage := found.baggage, clientHeaders := side.clientHeaders }

theorem get?_tags_collect_eq_some_iff {tag value : String} :
    (collect settings start headers).value.tags.get? tag = some value ↔
      ∃ header, headers.LastOf
        (fun header => settings.headerTags.get? (lowerAscii header.name) = some tag) header ∧
        header.value = value := by
  rw [tags_collect, TextMap.get?_ofList]
  apply Headers.lastOf?_filterMap_eq_some_iff
  intro header value
  rw [tagItem?, Option.map_eq_some_iff]
  simp [Header.lowerName, Prod.ext_iff]

theorem get?_baggage_collect_eq_some_iff {key value : String} :
    (collect settings start headers).value.baggage.get? key = some value ↔
      ∃ header, headers.LastOf
        (fun header => NamesBaggage settings start (lowerAscii header.name) key) header ∧
        (HeaderValue.decode header.value).value = value := by
  rw [baggage_collect, TextMap.get?_ofList]
  apply Headers.lastOf?_filterMap_eq_some_iff
  intro header value
  rw [item?, Option.map_eq_some_iff]
  simp [Header.lowerName, Prod.ext_iff, baggageKey?_eq_some_iff]

theorem get?_clientHeaders_collect_eq_some_iff {client : ClientHeader} {value : String} :
    (collect settings start headers).value.clientHeaders.get? client = some value ↔
      ∃ header, headers.FirstOf (fun header => lowerAscii header.name = client.name) header ∧
        IsKept client header.value value := by
  simp only [isKept_iff]
  rw [ClientHeaders.get?, clientHeaders_collect]
  apply Headers.valueOf?_filterMap_eq_some_iff
  intro header value
  rw [clientItem?, Option.map_eq_some_iff]
  constructor
  · rintro ⟨found, hfound, hitem⟩
    obtain ⟨hsame, hvalue⟩ := Prod.mk.inj hitem
    have hclient : found = client := ClientHeader.name_injective hsame
    subst hclient
    exact ⟨(ClientHeader.name_of_ofName? hfound).symm, hvalue⟩
  · rintro ⟨hname, rfl⟩
    exact ⟨client, by rw [Header.lowerName, hname, ClientHeader.ofName?_name], rfl⟩

theorem exists_name_of_mem_clientHeaders_collect {entry : String × String}
    (h : entry ∈ (collect settings start headers).value.clientHeaders.values.toList) :
    ∃ client : ClientHeader, client.name = entry.1 := by
  rw [← TextMap.get?_eq_some_iff, clientHeaders_collect] at h
  obtain ⟨header, -, hitem⟩ := List.mem_filterMap.mp (TextMap.mem_of_valueOf? h)
  obtain ⟨client, -, hclient⟩ := Option.map_eq_some_iff.mp hitem
  exact ⟨client, congrArg Prod.fst hclient⟩

theorem completes_complete (side : SideData) (context : SpanContext) :
    side.Completes context (side.completed context) where
  tags := TextMap.get?_unionNew context.tags side.tags
  baggage := by
    intro key
    show (context.baggage.insertMany side.baggage.toList).get? key = _
    rw [TextMap.get?_insertMany, TextMap.lastOf?_toList]
  others := rfl

/-- What is picked up from any headers, and what it makes of any span context. -/
theorem collect_and_complete (settings : Settings) (start : Option String) (headers : Headers) :
    let side := (collect settings start headers).value
    Collects settings start headers side ∧
      ∀ context, ∃ found, side.complete context = .full found ∧ side.Completes context found := by
  intro side
  refine ⟨⟨fun _ _ => get?_tags_collect_eq_some_iff, fun _ _ => get?_baggage_collect_eq_some_iff,
    fun _ _ => get?_clientHeaders_collect_eq_some_iff,
    fun _ => exists_name_of_mem_clientHeaders_collect⟩, fun context => ?_⟩
  exact ⟨side.completed context, side.complete_eq context, completes_complete side context⟩

end SideData

end TraceHeaders
