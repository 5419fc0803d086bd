import Mathlib.Algebra.Order.BigOperators.Group.List
import Mathlib.Algebra.Order.Group.Nat
import TraceHeaders.Proofs.Format.Datadog.RoundTrip
import TraceHeaders.Proofs.Format.Datadog.Validation

/-!
What a service passes on of a trace that it was sent.  Whatever headers are accepted, the context read
from them is one that writing and reading preserve: its tags are legible, its upper half and its decision
are well formed, its baggage keys are lowercase, and its list of tags is no longer than the one that was
read.
-/

namespace TraceHeaders.Format.Datadog

open Text

theorem sum_map_le_of_subset {α : Type} {xs ys : List α} (hnodup : xs.Nodup) (hsubset : xs ⊆ ys)
    (size : α → Nat) : (xs.map size).sum ≤ (ys.map size).sum := by
  obtain ⟨zs, hperm, hsublist⟩ := List.subperm_of_subset hnodup hsubset
  rw [← (hperm.map size).sum_nat]
  exact (hsublist.map size).sum_le_sum fun _ _ => Nat.zero_le _

theorem utf8ByteSize_intercalate_entryText_le {xs ys : List (String × String)} (hnodup : xs.Nodup)
    (hsubset : xs ⊆ ys) :
    (",".intercalate (xs.map entryText)).utf8ByteSize ≤
      (",".intercalate (ys.map entryText)).utf8ByteSize := by
  by_cases hne : xs = []
  · rw [hne]
    exact Nat.zero_le _
  · -- Each entry is counted with a comma of its own, so that the lists are sums over their entries.
    have hsum {entries : List (String × String)} (hne : entries ≠ []) :
        (",".intercalate (entries.map entryText)).utf8ByteSize + 1 =
          (entries.map fun entry => (entryText entry).utf8ByteSize + 1).sum := by
      have hne : entries.map entryText ≠ [] := mt List.map_eq_nil_iff.mp hne
      have hsize := utf8ByteSize_intercalate "," hne
      rw [List.map_map] at hsize
      exact hsize
    obtain ⟨entry, hentry⟩ := List.exists_mem_of_ne_nil xs hne
    have hxs := hsum hne
    have hys := hsum (List.ne_nil_of_mem (hsubset hentry))
    have hle := sum_map_le_of_subset hnodup hsubset fun entry => (entryText entry).utf8ByteSize + 1
    omega

/-- Tags that can be passed on as they are. -/
structure IsForwardable (limit : Nat) (tags : PropagationTags) : Prop where
  legible : IsLegible tags
  upperBits : ∀ value, tags.upperBits? = some value → isUpperBits value = true
  tracestate : tags.tracestate = none
  fits : tags.tags.toList ≠ [] →
    limit ≠ 0 ∧ (",".intercalate (tags.tags.toList.map entryText)).utf8ByteSize ≤ limit

theorem isForwardable_empty (limit : Nat) : IsForwardable limit ∅ where
  legible := ⟨fun _ h => absurd h List.not_mem_nil, fun _ h => absurd h List.not_mem_nil,
    fun value h => absurd h (Option.some_ne_none value).symm⟩
  upperBits := fun value h => absurd h (Option.some_ne_none value).symm
  tracestate := rfl
  fits := fun h => absurd rfl h

theorem mem_of_mem_checkTags {entries : List (String × String)} {tag : String × String}
    (h : tag ∈ (checkTags (.ofList entries)).value.1.tags.toList) :
    tag ∈ entries ∧ (tag.1 = decisionMakerTag → isDecision tag.2 = true) ∧
      (tag.1 = upperBitsTag → isUpperBits tag.2 = true) := by
  have hpropagated := (checkTags (.ofList entries)).value.1.propagated tag h
  have hget : (checkTags (.ofList entries)).value.1.get? tag.1 = some tag.2 :=
    TextMap.get?_eq_some_iff.mpr h
  rw [get?_checkTags_ofList hpropagated] at hget
  obtain ⟨hlast, hvalid⟩ := Option.filter_eq_some_iff.mp hget
  refine ⟨mem_of_lastOf? hlast, fun hkey => ?_, fun hkey => ?_⟩
  · rwa [if_pos hkey] at hvalid
  · have hne : ¬ tag.1 = decisionMakerTag := by
      rw [hkey]
      decide
    rwa [if_neg hne, if_pos hkey] at hvalid

theorem tracestate_checkTags (tags : PropagationTags) :
    (checkTags tags).value.1.tracestate = tags.tracestate := by
  have hdrop (valid : String → Bool) (key : String) (tags : PropagationTags) :
      (dropUnless valid key tags).1.tracestate = tags.tracestate := by
    rw [dropUnless]
    split
    · split <;> rfl
    · rfl
  rw [value_checkTags, hdrop, hdrop]

theorem isForwardable_checkTags {limit : Nat} {header : String} (h : IsReadable header limit) :
    IsForwardable limit (checkTags (.ofList (listedEntries header))).value.1 := by
  obtain ⟨htexts, hkeys⟩ : pieces ',' header = (listedEntries header).map entryText ∧
      ∀ entry ∈ listedEntries header, '=' ∉ entry.1.toList :=
    mapM_splitEntry_eq_ok_iff.mp (mapM_splitEntry_of_mem h.entries)
  have hcommas : ∀ entry ∈ listedEntries header, ',' ∉ entry.1.toList ∧ ',' ∉ entry.2.toList := by
    intro entry hentry
    have hpiece : entryText entry ∈ pieces ',' header := by
      rw [htexts]
      exact List.mem_map_of_mem hentry
    have hcomma := not_mem_of_mem_pieces hpiece
    simp only [entryText, String.toList_append, List.mem_append, not_or] at hcomma
    exact ⟨hcomma.1.1, hcomma.2⟩
  refine ⟨⟨?_, ?_, ?_⟩, ?_, ?_, ?_⟩
  · intro tag htag
    have hentry := (mem_of_mem_checkTags htag).1
    exact ⟨(hcommas tag hentry).1, hkeys tag hentry⟩
  · intro tag htag
    exact (hcommas tag (mem_of_mem_checkTags htag).1).2
  · intro value hvalue
    obtain ⟨_, hdecision, _⟩ := mem_of_mem_checkTags (TextMap.get?_eq_some_iff.mp hvalue)
    exact isDecision_iff.mp (hdecision rfl)
  · intro value hvalue
    obtain ⟨_, _, hupper⟩ := mem_of_mem_checkTags (TextMap.get?_eq_some_iff.mp hvalue)
    exact hupper rfl
  · rw [tracestate_checkTags]
    exact PropagationTags.tracestate_insertMany (listedEntries header) ∅
  · intro _
    have hle := utf8ByteSize_intercalate_entryText_le (TextMap.nodup_of_sorted
      (checkTags (.ofList (listedEntries header))).value.1.tags.sorted)
        fun _ htag => (mem_of_mem_checkTags htag).1
    have hglue : ",".toList = [','] := by decide
    rw [← htexts, intercalate_pieces hglue] at hle
    exact ⟨h.enabled, hle.trans h.fits⟩

theorem isForwardable_readTags (header : Option String) (limit : Nat) :
    IsForwardable limit (readTags header limit).value.1 := by
  have hempty := isForwardable_empty limit
  cases header with
  | none => exact hempty
  | some header =>
      by_cases hreadable : IsReadable header limit
      · rw [value_readTags_readable hreadable]
        exact isForwardable_checkTags hreadable
      · obtain ⟨defect, hvalue, _⟩ := value_readTags_unreadable hreadable
        rw [hvalue]
        exact hempty

theorem upper?_withUpperHex {lower : UInt64} {upperHex : Option String}
    (h : ∀ value, upperHex = some value → isUpperBits value = true) :
    ((TraceId.withUpperHex lower upperHex).upper?.map fun upper => hexPadded 16 upper.toNat) =
      upperHex.filter (· != hexPadded 16 0) := by
  cases upperHex with
  | none => rfl
  | some value =>
      obtain ⟨upper, rfl⟩ := exists_of_isUpperBits (h value rfl)
      have hzeros : (hexPadded 16 upper.toNat != hexPadded 16 0) = true ↔ upper ≠ 0 := by
        rw [bne_iff_ne, ne_eq, hexPadded_eq_zeros_iff]
      rw [withUpperHex_hexPadded, TraceId.upper?, TraceId.upper, Option.filter_some]
      by_cases hupper : upper = 0
      · rw [if_pos hupper, if_neg (mt hzeros.mp (not_not.mpr hupper)), Option.map_none]
      · rw [if_neg hupper, if_pos (hzeros.mpr hupper), Option.map_some]

/-- A context whose tags were read and complete its trace identifier. -/
structure IsForwarded (limit : Nat) (context : SpanContext) : Prop where
  tags : IsForwardable limit context.propagationTags
  traceId : context.traceId =
    .withUpperHex context.traceId.lower context.propagationTags.upperBits?
  mechanism : context.mechanism =
    (context.propagationTags.get? decisionMakerTag).bind SamplingMechanism.parse?

namespace IsForwarded

variable {limit : Nat} {context : SpanContext}

theorem upper?_eq (h : IsForwarded limit context) :
    (context.traceId.upper?.map fun upper => hexPadded 16 upper.toNat) =
      context.propagationTags.upperBits?.filter (· != hexPadded 16 0) := by
  rw [h.traceId]
  exact upper?_withUpperHex h.tags.upperBits

theorem mem_of_mem_tagEntries (h : IsForwarded limit context) {entry : String × String}
    (hentry : entry ∈ tagEntries context) : entry ∈ context.propagationTags.tags.toList := by
  rcases List.mem_append.mp hentry with hentry | hentry
  · exact (List.mem_filter.mp hentry).1
  · obtain ⟨upper, hupper, rfl⟩ := upperEntry_eq hentry
    have hread := h.upper?_eq
    rw [hupper, Option.map_some] at hread
    exact TextMap.get?_eq_some_iff.mp (Option.filter_eq_some_iff.mp hread.symm).1

theorem nodup_tagEntries (context : SpanContext) : (tagEntries context).Nodup := by
  rw [tagEntries, List.nodup_append]
  refine ⟨(TextMap.nodup_of_sorted context.propagationTags.tags.sorted).filter _, ?_, ?_⟩
  · cases context.traceId.upper? with
    | none => exact List.nodup_nil
    | some upper => exact List.pairwise_singleton _ _
  · rintro entry hentry other hother rfl
    obtain ⟨upper, _, rfl⟩ := upperEntry_eq hother
    simp at hentry

/-- The list that is written is no longer than the one that was read. -/
theorem fits (h : IsForwarded limit context) : Fits limit context := by
  by_cases hnil : tagEntries context = []
  · left
    rw [tagsText_eq, hnil]
    rfl
  · right
    obtain ⟨entry, hentry⟩ := List.exists_mem_of_ne_nil _ hnil
    obtain ⟨hlimit, hfits⟩ := h.tags.fits (List.ne_nil_of_mem (h.mem_of_mem_tagEntries hentry))
    have hle := utf8ByteSize_intercalate_entryText_le (nodup_tagEntries context)
      fun _ => h.mem_of_mem_tagEntries
    rw [tagsText_eq]
    exact ⟨hlimit, hle.trans hfits⟩

theorem carriedTags_eq (h : IsForwarded limit context) :
    carriedTags context =
      if context.propagationTags.upperBits? = some (hexPadded 16 0) then
        context.propagationTags.erase upperBitsTag
      else context.propagationTags := by
  have hstate : (carriedTags context).tracestate = none :=
    PropagationTags.tracestate_insertMany _ _
  split
  · rename_i hzeros
    have hupper := h.upper?_eq
    rw [hzeros, Option.filter_some, if_neg (by simp)] at hupper
    refine PropagationTags.ext_get? (fun key => ?_) (hstate.trans h.tags.tracestate.symm)
    rw [get?_carriedTags, PropagationTags.get?_erase, hupper]
  · rename_i hzeros
    have hupper := h.upper?_eq
    have hkept : context.propagationTags.upperBits?.filter (· != hexPadded 16 0) =
        context.propagationTags.upperBits? := by
      apply filter_eq_self
      intro value hvalue
      rw [bne_iff_ne]
      rintro rfl
      exact hzeros hvalue
    refine PropagationTags.ext_get? (fun key => ?_) (hstate.trans h.tags.tracestate.symm)
    rw [get?_carriedTags, hupper, hkept]
    split
    · rename_i hkey
      rw [hkey]
      rfl
    · rfl

end IsForwarded

variable {settings : Settings} {headers : Headers} {context : SpanContext}

theorem isForwarded_of_read (h : (read settings headers).outcome = .ok (.full context)) :
    IsForwarded settings.tagsLimit context ∧ context.traceId.lower ≠ 0 ∧
      context.baggage =
        (SideData.collect settings (some openTracingStart) headers).value.baggage := by
  obtain ⟨lower, spanId, priority, _, hne, rfl⟩ := exists_of_outcome_read h
  have hlower : (TraceId.withUpperHex lower (readTags (headers.get? tagsHeader)
      settings.tagsLimit).value.1.upperBits?).lower = lower := lower_withUpperHex _ _
  refine ⟨⟨isForwardable_readTags (headers.get? tagsHeader) settings.tagsLimit, ?_, rfl⟩, ?_, ?_⟩
  · exact congrArg (TraceId.withUpperHex · _) hlower.symm
  · exact hlower.trans_ne hne
  · exact TextMap.empty_union _

/-- What a service that forwards a trace leaves unchanged. -/
structure Forwards (found context : SpanContext) : Prop where
  traceId : found.traceId.toNat = context.traceId.toNat
  spanId : found.spanId = context.spanId
  priority : found.priority = context.priority
  mechanism : found.mechanism = context.mechanism
  origin : found.origin = context.origin
  baggage : found.baggage = context.baggage
  propagationTags : found.propagationTags =
    if context.propagationTags.upperBits? = some "0000000000000000" then
      context.propagationTags.erase upperBitsTag
    else context.propagationTags

/-- Whatever headers a context was read from, it is written and read again unchanged, but for an upper
half of the trace identifier that was zero. -/
theorem read_write_forwards (hkeys : settings.baggageKeys = ∅)
    (hnames : settings.baggageHeaders = ∅)
    (h : (read settings headers).outcome = .ok (.full context)) :
    ∃ found, (read settings ⟨(write settings context).value⟩).outcome = .ok (.full found) ∧
      Forwards found context := by
  obtain ⟨hforwarded, htrace, hbaggage⟩ := isForwarded_of_read h
  have hread := outcome_read_write hnames htrace
  rw [identified_written hforwarded.tags.legible hforwarded.fits] at hread
  refine ⟨_, hread, ?_⟩
  refine ⟨TraceId.toNat_narrow context.traceId, rfl, rfl, hforwarded.mechanism.symm, rfl, ?_, ?_⟩
  · have hlowercase : ∀ item ∈ context.baggage.toList,
        item.1 ≠ "" ∧ lowerAscii item.1 = item.1 := by
      intro item hitem
      rw [hbaggage] at hitem
      exact SideData.key_of_mem_baggage_collect hkeys hitem
    rw [← ofList_filterMap_restored? hlowercase, ← baggage_collect_write hkeys hnames context]
    exact TextMap.empty_union _
  · exact hforwarded.carriedTags_eq

/-- Headers with tags of every kind: repeated, outside of the namespace, malformed, and an upper half of
zeros. -/
def mixedHeaders : Headers where
  toList :=
    [⟨"X-Datadog-Trace-Id", " 42 "⟩, ⟨parentIdHeader, "7"⟩, ⟨priorityHeader, "-1"⟩,
      ⟨originHeader, "rum"⟩, ⟨"ot-baggage-User", "a%20b+c"⟩,
      ⟨tagsHeader, "_dd.p.usr=a,key=1,_dd.p.tid=0000000000000000,_dd.p.usr=b=c,_dd.p.dm=manual"⟩]

def mixedContext : SpanContext where
  traceId := .bits128 0 42
  spanId := 7
  priority := some ⟨-1⟩
  origin := some "rum"
  tags := ⟨[(errorTag, "decoding_error")], by decide⟩
  propagationTags :=
    { tags := ⟨[("_dd.p.tid", "0000000000000000"), ("_dd.p.usr", "b=c")], by decide⟩
      tracestate := none
      propagated := by decide }
  baggage := ⟨[("user", "a b c")], by decide⟩
  style := some .datadog
  isRemote := true

theorem read_write_forwards_mixed :
    (read {} mixedHeaders).outcome = .ok (.full mixedContext) ∧
    ∃ found, (read {} ⟨(write {} mixedContext).value⟩).outcome = .ok (.full found) ∧
      Forwards found mixedContext := by
  have hread : (read {} mixedHeaders).outcome = .ok (.full mixedContext) := by decide +kernel
  exact ⟨hread, read_write_forwards rfl rfl hread⟩

end TraceHeaders.Format.Datadog
