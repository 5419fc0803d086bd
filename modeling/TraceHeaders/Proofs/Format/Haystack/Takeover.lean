import TraceHeaders.Proofs.Carrier
import TraceHeaders.Proofs.Format.Haystack

/-!
The identity in the Haystack headers beside baggage of any keys.  Both identifiers have names that no
baggage item can be written under, but the priority has a name among those of the baggage.  An item of
that name is kept from the baggage that is read, and yet takes the place of the priority: in a list when
there is no priority before it, and in a map always, since the baggage is written last.
-/

namespace TraceHeaders.Format.Haystack

open Text

variable {settings : Settings} {context : SpanContext}

def isPriorityKey (key : String) : Bool := sameIgnoringCase key "datadog-sampling-priority"

/-- The baggage items that are written under the name of the priority. -/
def claimants (context : SpanContext) : List (String × String) :=
  context.baggage.toList.filter fun item => isPriorityKey item.1

/-- What is read of a context that was written to a carrier. -/
def readBack (settings : Settings) (context : SpanContext) (carrier : Carrier) :
    Except Fault Extracted :=
  (read settings (carrier.setAll (write settings context).value).headers).outcome

/-- The trace, the span and the priority come back, whatever else does. -/
def KeepsIdentity (settings : Settings) (context : SpanContext) (carrier : Carrier) : Prop :=
  ∃ found, readBack settings context carrier = .ok (.full found) ∧
    found.traceId = .bits64 context.traceId.lower ∧ found.spanId = context.spanId ∧
    found.priority = context.priority

theorem lowerAscii_baggageStart_append (key : String) :
    lowerAscii (baggageStart ++ key) = "baggage-" ++ lowerAscii key := by
  have hstart : lowerAscii baggageStart = "baggage-" := by decide
  rw [lowerAscii_append, hstart]

theorem sameIgnoringCase_baggageStart_append (key : String) :
    sameIgnoringCase (baggageStart ++ key) priorityHeader = isPriorityKey key := by
  have hpriority : lowerAscii priorityHeader =
      "baggage-" ++ lowerAscii "datadog-sampling-priority" := by decide
  rw [Bool.eq_iff_iff, isPriorityKey, sameIgnoringCase_iff, sameIgnoringCase_iff,
    lowerAscii_baggageStart_append, hpriority]
  simp

theorem lowerAscii_baggageStart_append_ne (key : String) :
    ∀ name ∈ [traceIdHeader, spanIdHeader], lowerAscii (baggageStart ++ key) ≠ lowerAscii name := by
  intro name hname hsame
  have hbegins : ∀ name ∈ [traceIdHeader, spanIdHeader],
      begins "baggage-" (lowerAscii name) = false := by decide
  have hother := hbegins name hname
  rw [← hsame, lowerAscii_baggageStart_append, ← after?_eq_none_iff, after?_append] at hother
  exact absurd hother (Option.some_ne_none _)

theorem writeBaggage_eq (hnames : settings.baggageHeaders = ∅) (baggage : TextMap) :
    writeBaggage settings baggageStart encodeForm baggage =
      baggage.toList.map fun item => ⟨baggageStart ++ item.1, encodeForm item.2⟩ := by
  rw [writeBaggage]
  simp only [baggageName_eq hnames]

/-- In a list, what stands first under a name counts, and the identity is written first. -/
theorem get?_readBack_list (context : SpanContext) (hnames : settings.baggageHeaders = ∅) :
    let headers := ((Carrier.list []).setAll (write settings context).value).headers
    headers.get? traceIdHeader = some (uuid context.traceId.lower) ∧
      headers.get? spanIdHeader = some (uuid context.spanId) ∧
      headers.get? priorityHeader = (context.priority.map (·.text)).or
        ((claimants context).head?.map fun item => encodeForm item.2) := by
  intro headers
  have hheaders : headers = ⟨identityHeaders context ++
      context.baggage.toList.map fun item => ⟨baggageStart ++ item.1, encodeForm item.2⟩⟩ := by
    have hlist : headers = ⟨[] ++ (write settings context).value⟩ :=
      congrArg Carrier.headers (Carrier.setAll_list [] _)
    rw [hlist, value_write, writeBaggage_eq hnames, List.nil_append]
  obtain ⟨htrace, hspan, hpriority⟩ := get?_identityHeaders context
  rw [hheaders]
  refine ⟨?_, ?_, ?_⟩
  · rw [Headers.get?_append, htrace, Option.some_or]
  · rw [Headers.get?_append, hspan, Option.some_or]
  · have hitems : ∀ items : List (String × String),
        Headers.get? ⟨items.map fun item => ⟨baggageStart ++ item.1, encodeForm item.2⟩⟩
          priorityHeader =
        (items.filter fun item => isPriorityKey item.1).head?.map fun item => encodeForm item.2 := by
      intro items
      induction items with
      | nil => rfl
      | cons item items ih =>
          rw [List.map_cons, Headers.get?_cons, Header.isNamed,
            sameIgnoringCase_baggageStart_append, List.filter_cons]
          by_cases hitem : isPriorityKey item.1 = true
          · rw [if_pos hitem, if_pos hitem]
            rfl
          · rw [if_neg hitem, if_neg hitem, ih]
    rw [Headers.get?_append, hpriority, hitems]
    rfl

def lowered (header : Header) : String × String := (lower header.name, header.value)

theorem lastOf?_identityHeaders (context : SpanContext) :
    let entries := (identityHeaders context).map lowered
    lastOf? (lowerAscii traceIdHeader) entries = some (uuid context.traceId.lower) ∧
      lastOf? (lowerAscii spanIdHeader) entries = some (uuid context.spanId) ∧
      lastOf? (lowerAscii priorityHeader) entries = context.priority.map (·.text) := by
  have hlower : ∀ name ∈ keys, lower name = lowerAscii name := by
    intro name hname
    have hascii : ∀ name ∈ keys, name.toList.all isAscii = true := by decide
    exact lower_eq_lowerAscii (hascii name hname)
  simp only [keys, List.forall_mem_cons] at hlower
  obtain ⟨htrace, hspan, hdatadogTrace, hdatadogSpan, hpriority, -⟩ := hlower
  rw [identityHeaders]
  rcases context.priority with - | priority
  · simp +decide [lowered, lastOf?_cons, htrace, hspan, hdatadogTrace, hdatadogSpan]
  · simp +decide [lowered, lastOf?_cons, htrace, hspan, hdatadogTrace, hdatadogSpan, hpriority]

theorem lastOf?_baggage (items : List (String × String)) :
    lastOf? (lowerAscii priorityHeader)
      (items.map fun item => lowered ⟨baggageStart ++ item.1, encodeForm item.2⟩) =
        (items.filter fun item => isPriorityKey item.1).getLast?.map fun item =>
          encodeForm item.2 := by
  have hplain : (lowerAscii priorityHeader).toList.all isPlain = true := by decide
  have hclaims (item : String × String) :
      decide (lower (baggageStart ++ item.1) = lowerAscii priorityHeader) = isPriorityKey item.1 := by
    rw [← sameIgnoringCase_baggageStart_append, Bool.eq_iff_iff, decide_eq_true_iff,
      lower_eq_iff hplain, sameIgnoringCase_iff]
  rw [lastOf?, List.filter_map, List.getLast?_map, Option.map_map]
  simp only [Function.comp_def, lowered, hclaims]

theorem lastOf?_baggage_eq_none (items : List (String × String)) :
    ∀ name ∈ [traceIdHeader, spanIdHeader], lastOf? (lowerAscii name)
      (items.map fun item => lowered ⟨baggageStart ++ item.1, encodeForm item.2⟩) = none := by
  intro name hname
  have hplain : ∀ name ∈ [traceIdHeader, spanIdHeader],
      (lowerAscii name).toList.all isPlain = true := by decide
  apply lastOf?_eq_none
  intro entry hentry hsame
  obtain ⟨item, _, rfl⟩ := List.mem_map.mp hentry
  exact lowerAscii_baggageStart_append_ne item.1 name hname ((lower_eq_iff (hplain name hname)).mp hsame)

/-- In a map, what was written last under a name counts, and the baggage is written last. -/
theorem get?_readBack_map (context : SpanContext) (hnames : settings.baggageHeaders = ∅) :
    let headers := ((Carrier.map ∅).setAll (write settings context).value).headers
    headers.get? traceIdHeader = some (uuid context.traceId.lower) ∧
      headers.get? spanIdHeader = some (uuid context.spanId) ∧
      headers.get? priorityHeader = ((claimants context).getLast?.map fun item =>
        encodeForm item.2).or (context.priority.map (·.text)) := by
  intro headers
  have hget (name : String) : headers.get? name =
      (lastOf? (lowerAscii name) (context.baggage.toList.map fun item =>
        lowered ⟨baggageStart ++ item.1, encodeForm item.2⟩)).or
        (lastOf? (lowerAscii name) ((identityHeaders context).map lowered)) := by
    rw [Carrier.get?_headers_setAll_map, value_write, writeBaggage_eq hnames, List.map_append,
      lastOf?_append, List.map_map]
    rfl
  obtain ⟨htrace, hspan, hpriority⟩ := lastOf?_identityHeaders context
  have hunclaimed := lastOf?_baggage_eq_none context.baggage.toList
  refine ⟨?_, ?_, ?_⟩
  · rw [hget, hunclaimed _ (by decide), htrace, Option.none_or]
  · rw [hget, hunclaimed _ (by decide), hspan, Option.none_or]
  · rw [hget, lastOf?_baggage, hpriority]
    rfl

/-- Where both identifiers stand, all that can change or fail is the priority. -/
theorem outcome_read_eq_full_iff (h : context.traceId.lower ≠ 0) {headers : Headers}
    (htrace : headers.get? traceIdHeader = some (uuid context.traceId.lower))
    (hspan : headers.get? spanIdHeader = some (uuid context.spanId)) {found : SpanContext} :
    (read settings headers).outcome = .ok (.full found) ↔
      ∃ priority, (readPriority headers).outcome = .ok priority ∧
        (readSideData settings headers).value.completed { identified context with priority } =
          found := by
  rw [outcome_read_identified settings h htrace hspan]
  rcases (readPriority headers).outcome with fault | priority
  · simp [Except.map]
  · simp [Except.map, SideData.complete_eq]

theorem outcome_readPriority_eq_ok_iff {headers : Headers} {priority : Option SamplingPriority} :
    (readPriority headers).outcome = .ok priority ↔
      (headers.get? priorityHeader).map SamplingPriority.parse? = priority.map some := by
  rw [readPriority]
  rcases headers.get? priorityHeader with - | value
  · cases priority <;> simp
  · rw [Reading.outcome_map, Reading.outcome_orFail, Option.map_some]
    rcases SamplingPriority.parse? value with - | parsed
    · cases priority <;> simp
    · cases priority <;> simp

theorem keeps_iff_of_identified (h : context.traceId.lower ≠ 0) {headers : Headers}
    (htrace : headers.get? traceIdHeader = some (uuid context.traceId.lower))
    (hspan : headers.get? spanIdHeader = some (uuid context.spanId)) :
    (∃ found, (read settings headers).outcome = .ok (.full found) ∧
      found.traceId = .bits64 context.traceId.lower ∧ found.spanId = context.spanId ∧
      found.priority = context.priority) ↔
    (headers.get? priorityHeader).map SamplingPriority.parse? = context.priority.map some := by
  simp only [outcome_read_eq_full_iff h htrace hspan]
  rw [← outcome_readPriority_eq_ok_iff]
  constructor
  · rintro ⟨_, ⟨priority, hread, rfl⟩, -, -, hpriority⟩
    exact hread.trans (congrArg Except.ok hpriority)
  · intro hread
    exact ⟨_, ⟨context.priority, hread, rfl⟩, rfl, rfl, rfl⟩

theorem keepsIdentity_list_iff (hnames : settings.baggageHeaders = ∅)
    (h : context.traceId.lower ≠ 0) :
    KeepsIdentity settings context (.list []) ↔
      (context.priority = none → claimants context = []) := by
  obtain ⟨htrace, hspan, hpriority⟩ := get?_readBack_list context hnames
  refine (keeps_iff_of_identified h htrace hspan).trans ?_
  rw [hpriority]
  rcases context.priority with - | priority
  · simp [Option.map_eq_none_iff]
  · simp [SamplingPriority.parse?_text]

theorem keepsIdentity_map_iff (hnames : settings.baggageHeaders = ∅)
    (h : context.traceId.lower ≠ 0) :
    KeepsIdentity settings context (.map ∅) ↔
      ∀ item, (claimants context).getLast? = some item → ∃ priority,
        context.priority = some priority ∧
          SamplingPriority.parse? (encodeForm item.2) = some priority := by
  obtain ⟨htrace, hspan, hpriority⟩ := get?_readBack_map context hnames
  refine (keeps_iff_of_identified h htrace hspan).trans ?_
  rw [hpriority]
  rcases (claimants context).getLast? with - | item
  · rcases context.priority with - | priority
    · simp
    · simp [SamplingPriority.parse?_text]
  · rcases context.priority with - | priority
    · simp
    · simp

/-- Baggage never changes the trace or the span.  It leaves the priority alone in a list when there is
one or no item claims its name, and in a map when the last item that does restates it. -/
theorem read_back_keeps_identity_iff (settings : Settings) (hnames : settings.baggageHeaders = ∅)
    {context : SpanContext} (h : context.traceId.lower ≠ 0) :
    (KeepsIdentity settings context (.list []) ↔
      (context.priority = none → claimants context = [])) ∧
    (KeepsIdentity settings context (.map ∅) ↔
      ∀ item, (claimants context).getLast? = some item → ∃ priority,
        context.priority = some priority ∧
          SamplingPriority.parse? (encodeForm item.2) = some priority) ∧
    ∀ carrier ∈ [Carrier.list [], .map ∅], ∀ found,
      readBack settings context carrier = .ok (.full found) →
        found.traceId = .bits64 context.traceId.lower ∧ found.spanId = context.spanId := by
  refine ⟨keepsIdentity_list_iff hnames h, keepsIdentity_map_iff hnames h, ?_⟩
  intro carrier hcarrier found hfound
  obtain ⟨htrace, hspan⟩ : let headers := (carrier.setAll (write settings context).value).headers
      headers.get? traceIdHeader = some (uuid context.traceId.lower) ∧
        headers.get? spanIdHeader = some (uuid context.spanId) := by
    simp only [List.mem_cons, List.not_mem_nil, or_false] at hcarrier
    rcases hcarrier with rfl | rfl
    · obtain ⟨htrace, hspan, -⟩ := get?_readBack_list context hnames
      exact ⟨htrace, hspan⟩
    · obtain ⟨htrace, hspan, -⟩ := get?_readBack_map context hnames
      exact ⟨htrace, hspan⟩
  obtain ⟨_, -, rfl⟩ := (outcome_read_eq_full_iff h htrace hspan).mp hfound
  exact ⟨rfl, rfl⟩

def claimedContext (key : String) (priority : Option SamplingPriority) : SpanContext where
  traceId := .bits64 1
  spanId := 2
  priority := priority
  baggage := .ofList [(key, "2")]

/-- The priority of the context comes back from a list, and that of the baggage from a map. -/
theorem read_back_keeps_identity_claimed :
    let context := claimedContext "Datadog-Sampling-Priority" (some .autoKeep)
    context.traceId.lower ≠ 0 ∧ KeepsIdentity {} context (.list []) ∧
      ¬ KeepsIdentity {} context (.map ∅) := by
  intro context
  have htrace : context.traceId.lower ≠ 0 := by decide
  have hlast : (claimants context).getLast? = some ("Datadog-Sampling-Priority", "2") := by decide
  have hparse : SamplingPriority.parse? (encodeForm "2") = some .userKeep := by decide
  obtain ⟨hlist, hmap, -⟩ := read_back_keeps_identity_iff {} rfl htrace
  refine ⟨htrace, hlist.mpr fun hnone => absurd hnone (Option.some_ne_none _), ?_⟩
  intro hkeeps
  obtain ⟨priority, hpriority, hclaim⟩ := hmap.mp hkeeps _ hlast
  have hsame : some SamplingPriority.autoKeep = some .userKeep :=
    hpriority.trans (hclaim.symm.trans hparse)
  exact absurd hsame (by decide)

theorem not_read_back_keeps_identity :
    ¬ ∀ (settings : Settings) (context : SpanContext), settings.baggageKeys = ∅ →
      settings.baggageHeaders = ∅ → context.traceId.lower ≠ 0 →
      ∀ carrier ∈ [Carrier.list [], .map ∅], KeepsIdentity settings context carrier := by
  intro h
  obtain ⟨found, hfound, -, -, hpriority⟩ := h {} (claimedContext "datadog-sampling-priority" none)
    rfl rfl (by decide) (.list []) List.mem_cons_self
  have hread : ((readBack {} (claimedContext "datadog-sampling-priority" none)
      (.list [])).toOption.bind Extracted.full?).map (·.priority) = some (some .userKeep) := by
    decide +kernel
  rw [hfound] at hread
  have hboth : some (none : Option SamplingPriority) = some (some .userKeep) :=
    (congrArg some hpriority.symm).trans hread
  exact absurd hboth (by decide)

end TraceHeaders.Format.Haystack
