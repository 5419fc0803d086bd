import TraceHeaders.Proofs.Configuration
import TraceHeaders.Proofs.Format.Found
import TraceHeaders.Proofs.Format.Haystack
import TraceHeaders.Proofs.Text.FormCoding

namespace TraceHeaders

open Format Text

/-- A mapping of header names to baggage keys that can be turned round and told from the headers of a
style: it has no name twice and no key twice, and no name is one that the style uses itself. -/
structure Configuration.MapsBaggage (config : Configuration) (style : Style) : Prop where
  ascii : ∀ entry ∈ config.headerBaggage, entry.1.toList.all isAscii = true
  names : config.headerBaggage.Pairwise fun a b => sameIgnoringCase a.1 b.1 = false
  keys : config.headerBaggage.Pairwise fun a b => a.2 ≠ b.2
  own : ∀ entry ∈ config.headerBaggage, ∀ key ∈ style.keys, sameIgnoringCase entry.1 key = false
  start : ∀ entry ∈ config.headerBaggage, ∀ start ∈ style.baggageStart?,
    begins start (lowerAscii entry.1) = false

namespace Configuration.MapsBaggage

variable {config : Configuration} {style : Style}

theorem get?_baggageKeys (h : config.MapsBaggage style) {name key : String} :
    config.settings.baggageKeys.get? name = some key ↔
      ∃ entry ∈ config.headerBaggage, lowerAscii entry.1 = name ∧ entry.2 = key :=
  get?_ofList_lowerNames h.ascii h.names

theorem baggageHeader?_eq_some_iff (h : config.MapsBaggage style) {name key : String} :
    config.settings.baggageHeader? key = some name ↔
      config.settings.baggageKeys.get? name = some key := by
  have hperm : config.settings.baggageKeys.toList.Perm (lowerNames config.headerBaggage) :=
    TextMap.toList_ofList_perm (pairwise_lowerNames h.ascii h.names)
  have hkeys : (config.settings.baggageKeys.toList.map fun entry => (entry.2, entry.1)).Pairwise
      fun a b => a.1 ≠ b.1 := by
    rw [List.pairwise_map]
    refine hperm.symm.pairwise ?_ Ne.symm
    rw [lowerNames_of_ascii h.ascii, List.pairwise_map]
    exact h.keys
  have hmap : config.settings.baggageHeaders = TextMap.ofList
      (config.settings.baggageKeys.toList.map fun entry => (entry.2, entry.1)) := rfl
  rw [Settings.baggageHeader?, hmap, TextMap.get?_ofList, lastOf?_eq_some_iff hkeys,
    TextMap.get?_eq_some_iff]
  constructor
  · intro hmem
    obtain ⟨entry, hentry, heq⟩ := List.mem_map.mp hmem
    obtain ⟨rfl, rfl⟩ := Prod.mk.inj heq
    exact hentry
  · intro hmem
    exact List.mem_map_of_mem hmem

end Configuration.MapsBaggage

/-- Baggage that survives in the headers of a style: a key without a header of its own is lowercase and
not empty, and none belongs to the identity. -/
structure SpanContext.HasRestorableBaggage (context : SpanContext) (config : Configuration)
    (style : Style) : Prop where
  unmapped : ∀ item ∈ context.baggage.toList, (∀ entry ∈ config.headerBaggage, entry.2 ≠ item.1) →
    item.1 ≠ "" ∧ item.1.toList.any Char.isUpper = false
  unreserved : ∀ item ∈ context.baggage.toList, item.1 ∉ style.reservedBaggage

theorem Style.reserved_of_after? (style : Style) : ∀ key ∈ style.keys,
    ∀ item ∈ style.baggageStart?.bind (after? · (lowerAscii key)), item ∈ style.reservedBaggage := by
  cases style <;> decide

namespace Format

variable {config : Configuration} {style : Style} {context : SpanContext} {start : String}
  {encode : String → String}

theorem baggageName_cases (h : config.MapsBaggage style)
    (hbaggage : context.HasRestorableBaggage config style) {item : String × String}
    (hitem : item ∈ context.baggage.toList) :
    (∃ entry ∈ config.headerBaggage, entry.2 = item.1 ∧
      config.settings.baggageHeader? item.1 = some (lowerAscii entry.1)) ∨
    (item.1 ≠ "" ∧ lowerAscii item.1 = item.1 ∧ config.settings.baggageHeader? item.1 = none) := by
  cases hheader : config.settings.baggageHeader? item.1 with
  | some name =>
      obtain ⟨entry, hentry, rfl, hkey⟩ :=
        h.get?_baggageKeys.mp (h.baggageHeader?_eq_some_iff.mp hheader)
      exact .inl ⟨entry, hentry, hkey, rfl⟩
  | none =>
      obtain ⟨hne, hupper⟩ := hbaggage.unmapped item hitem fun entry hentry hkey => by
        have hmapped := h.baggageHeader?_eq_some_iff.mpr
          (h.get?_baggageKeys.mpr ⟨entry, hentry, rfl, hkey⟩)
        rw [hheader] at hmapped
        exact Option.some_ne_none _ hmapped.symm
      have hlower : lowerAscii item.1 = item.1 := lowerAscii_eq_self fun c hc =>
        Bool.eq_false_iff.mpr (List.any_eq_false.mp hupper c hc)
      exact .inr ⟨hne, hlower, rfl⟩

theorem item?_restorable (h : config.MapsBaggage style)
    (hstart : style.baggageStart? = some (lowerAscii start))
    (hbaggage : context.HasRestorableBaggage config style)
    (hencode : ∀ value, (HeaderValue.decode (encode value)).value = value)
    {item : String × String} (hitem : item ∈ context.baggage.toList) :
    SideData.item? config.settings style.baggageStart?
      ⟨baggageName config.settings start item.1, encode item.2⟩ = some item := by
  rcases baggageName_cases h hbaggage hitem with
    ⟨entry, hentry, hkey, hheader⟩ | ⟨hne, hlower, hheader⟩
  · apply item?_mapped hheader _ hencode
    rw [lowerAscii_lowerAscii]
    exact h.get?_baggageKeys.mpr ⟨entry, hentry, rfl, hkey⟩
  · rw [hstart, item?_unmapped hheader _ hencode, restored?_eq_some hne hlower]
    -- No header is mapped to a key under the start of the style.
    rw [Option.eq_none_iff_forall_ne_some]
    intro key hkey
    obtain ⟨entry, hentry, hname, _⟩ := h.get?_baggageKeys.mp hkey
    have hbegins := h.start entry hentry _ hstart
    rw [hname] at hbegins
    exact absurd (begins_iff.mpr ⟨_, rfl⟩) (Bool.eq_false_iff.mp hbegins)

theorem isNamed_restorable (h : config.MapsBaggage style)
    (hstart : style.baggageStart? = some (lowerAscii start))
    (hbaggage : context.HasRestorableBaggage config style) {header : Header}
    (hheader : header ∈ writeBaggage config.settings start encode context.baggage) {key : String}
    (hkey : key ∈ style.keys) : header.isNamed key = false := by
  obtain ⟨⟨item, value⟩, hitem, rfl⟩ := List.mem_map.mp hheader
  rw [← Bool.not_eq_true, Header.isNamed, sameIgnoringCase_iff]
  intro hsame
  simp only [baggageName] at hsame
  rcases baggageName_cases h hbaggage hitem with
    ⟨entry, hentry, _, hheader⟩ | ⟨_, hlower, hheader⟩
  · rw [hheader, Option.getD_some, lowerAscii_lowerAscii, ← sameIgnoringCase_iff,
      h.own entry hentry key hkey] at hsame
    exact Bool.noConfusion hsame
  · rw [hheader, Option.getD_none, lowerAscii_append, hlower] at hsame
    refine hbaggage.unreserved _ hitem (style.reserved_of_after? key hkey item ?_)
    rw [hstart, Option.bind_some, ← hsame, after?_append]
    rfl

theorem get?_append_restorable (h : config.MapsBaggage style)
    (hstart : style.baggageStart? = some (lowerAscii start))
    (hbaggage : context.HasRestorableBaggage config style) (encode : String → String)
    (own : List Header) : ∀ key ∈ style.keys,
      Headers.get? ⟨own ++ writeBaggage config.settings start encode context.baggage⟩ key =
        Headers.get? ⟨own⟩ key := by
  intro key hkey
  apply Headers.get?_append_of_unnamed
  intro header hheader
  exact isNamed_restorable h hstart hbaggage hheader hkey

theorem reserved_of_item? (h : config.MapsBaggage style) {header : Header}
    (hname : header.name ∈ style.keys) {item : String × String}
    (hitem : SideData.item? config.settings style.baggageStart? header = some item) :
    item.1 ∈ style.reservedBaggage := by
  obtain ⟨key, hkey, rfl⟩ := Option.map_eq_some_iff.mp hitem
  rw [SideData.baggageKey?] at hkey
  have hunmapped : config.settings.baggageKeys.get? header.lowerName = none := by
    rw [Option.eq_none_iff_forall_ne_some]
    intro other hother
    obtain ⟨entry, hentry, hsame, _⟩ := h.get?_baggageKeys.mp hother
    have hown := h.own entry hentry header.name hname
    exact absurd (sameIgnoringCase_iff.mpr hsame) (Bool.eq_false_iff.mp hown)
  rw [hunmapped] at hkey
  exact style.reserved_of_after? header.name hname key (Option.filter_eq_some_iff.mp hkey).1

/-- The baggage beside an identity is just what was written, since all that the headers of the identity
are taken for is reserved. -/
theorem baggage_sideData (h : config.MapsBaggage style)
    (hstart : style.baggageStart? = some (lowerAscii start))
    (hbaggage : context.HasRestorableBaggage config style)
    (hencode : ∀ value, (HeaderValue.decode (encode value)).value = value) {own : List Header}
    (hown : ∀ header ∈ own, header.name ∈ style.keys) :
    (style.sideData config.settings
      ⟨own ++ writeBaggage config.settings start encode context.baggage⟩).baggage =
        context.baggage := by
  have hcollect : (SideData.collect config.settings style.baggageStart?
      ⟨own ++ writeBaggage config.settings start encode context.baggage⟩).value.baggage =
        TextMap.ofList (own.filterMap (SideData.item? config.settings style.baggageStart?) ++
          context.baggage.toList.filterMap some) :=
    baggage_collect_append
      (fun item hitem => item?_restorable h hstart hbaggage hencode hitem) own
  rw [List.filterMap_some] at hcollect
  have herase : (style.sideData config.settings
      ⟨own ++ writeBaggage config.settings start encode context.baggage⟩).baggage =
        style.reservedBaggage.foldl TextMap.erase (SideData.collect config.settings
          style.baggageStart? ⟨own ++ writeBaggage config.settings start encode
            context.baggage⟩).value.baggage := rfl
  rw [herase, hcollect]
  apply TextMap.ext_get?
  intro key
  rw [TextMap.get?_foldl_erase, TextMap.get?_ofList, lastOf?_append, TextMap.lastOf?_toList]
  split
  · rename_i hreserved
    symm
    rw [Option.eq_none_iff_forall_ne_some]
    intro value hvalue
    exact hbaggage.unreserved _ (TextMap.get?_eq_some_iff.mp hvalue) hreserved
  · rename_i hfree
    have hnone : lastOf? key
        (own.filterMap (SideData.item? config.settings style.baggageStart?)) = none := by
      apply lastOf?_eq_none
      rintro item hitem rfl
      obtain ⟨header, hheader, hitem⟩ := List.mem_filterMap.mp hitem
      exact hfree (reserved_of_item? h (hown header hheader) hitem)
    rw [hnone, Option.or_none]

theorem TraceContext.stateContext_baggage (sampled : Bool)
    (header : Option (String × TraceContext.TraceState)) :
    (TraceContext.stateContext sampled header).baggage = ∅ := by
  cases header <;> rfl

end Format

namespace Style

variable {config : Configuration} {style : Style} {context : SpanContext}

/-- Baggage of any values comes back as it was, whichever of its keys are mapped to headers. -/
theorem baggage_read_written (h : config.MapsBaggage style)
    (hstyle : style ∈ [datadog, traceContext, haystack]) (htrace : context.traceId.lower ≠ 0)
    (hspan : context.spanId ≠ 0) (hbaggage : context.HasRestorableBaggage config style)
    {read : Headers → Reading Extracted} (hread : style.read? config.settings = some read)
    {write : SpanContext → Logged (List Header)}
    (hwrite : style.write? config.settings = some write) :
    ∃ found, (read ⟨(write context).value⟩).outcome = .ok (.full found) ∧
      found.baggage = context.baggage := by
  have hform (value : String) : (HeaderValue.decode (encodeForm value)).value = value :=
    HeaderValue.value_decode (decodeForm_encodeForm value)
  have hpercent (value : String) : (HeaderValue.decode (encodePercent value)).value = value :=
    HeaderValue.value_decode (decodeForm_encodePercent value)
  simp only [List.mem_cons, List.not_mem_nil, or_false] at hstyle
  rcases hstyle with rfl | rfl | rfl
  · cases hread
    cases hwrite
    have hstart : datadog.baggageStart? = some (lowerAscii openTracingStart) := by decide
    refine ⟨_, Datadog.outcome_read_own htrace (get?_append_restorable h hstart hbaggage _ _), ?_⟩
    exact (TextMap.empty_union _).trans
      (baggage_sideData h hstart hbaggage hform Datadog.name_of_mem_ownHeaders)
  · cases hread
    cases hwrite
    have hstart : traceContext.baggageStart? = some (lowerAscii openTracingStart) := by decide
    have hidentified : TraceContext.Identified context := ⟨TraceId.isZero_of_lower htrace, hspan⟩
    refine ⟨_, TraceContext.outcome_read_written _ hidentified
      (TraceContext.get?_traceparent_write hidentified _), ?_⟩
    rw [TraceContext.value_write hidentified]
    exact ((congrArg (TextMap.union · _) (TraceContext.stateContext_baggage _ _)).trans
      (TextMap.empty_union _)).trans
      (baggage_sideData h hstart hbaggage hpercent TraceContext.name_of_mem_ownHeaders)
  · cases hread
    cases hwrite
    have hstart : haystack.baggageStart? = some (lowerAscii Haystack.baggageStart) := by decide
    refine ⟨_, Haystack.outcome_read_own _ htrace (get?_append_restorable h hstart hbaggage _ _), ?_⟩
    exact (TextMap.empty_union _).trans
      (baggage_sideData h hstart hbaggage hform Haystack.name_of_mem_identityHeaders)

/-- A mapping to headers of keys that could not be part of a name. -/
def mappedConfiguration : Configuration where
  headerBaggage := [("X-User", "User ID"), ("x-nameless", "")]

def mappedBaggage : List (String × String) :=
  [("", "50% + ü"), ("User ID", "a b"), ("région", "x,y;z")]

def mappedContext : SpanContext where
  traceId := .bits128 0x1234 0x5678
  spanId := 0x9a
  baggage := ⟨mappedBaggage, by decide⟩

theorem baggage_read_written_mapped :
    let headers := (Haystack.write mappedConfiguration.settings mappedContext).value
    (headers.map (·.name)).drop 4 = ["x-nameless", "x-user", "Baggage-région"] ∧
    ∃ found, (Haystack.read mappedConfiguration.settings ⟨headers⟩).outcome = .ok (.full found) ∧
      found.baggage.toList = mappedBaggage := by
  have hmaps : mappedConfiguration.MapsBaggage haystack :=
    ⟨by decide, by decide, by decide, by decide, by decide⟩
  have hrestorable : mappedContext.HasRestorableBaggage mappedConfiguration haystack :=
    ⟨by decide, by decide⟩
  obtain ⟨found, hfound, hbaggage⟩ := baggage_read_written hmaps (by decide) (by decide) (by decide)
    hrestorable rfl rfl
  exact ⟨by decide +kernel, found, hfound, congrArg TextMap.toList hbaggage⟩

end Style

end TraceHeaders
