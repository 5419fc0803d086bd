import Mathlib.Data.List.Perm.Subperm
import TraceHeaders.Proofs.Codec
import TraceHeaders.Proofs.Format.Portable
import TraceHeaders.Proofs.Text.Cuts
import TraceHeaders.Proofs.Text.Numeral

namespace TraceHeaders.Format.Haystack

open Text

def uuidGroups (id : UInt64) : List String :=
  ["44617461", "646f", "6721", String.ofList ((hexWord 16 id.toNat).take 4),
    String.ofList ((hexWord 16 id.toNat).drop 4)]

theorem uuid_eq_digits (id : UInt64) :
    uuid id = signature ++ "-" ++ String.ofList ((hexWord 16 id.toNat).take 4) ++ "-" ++
      String.ofList ((hexWord 16 id.toNat).drop 4) := by
  have hplace := isValid_hexPadded (show 4 ≤ 16 by decide) id.toNat
  have hascii : ∀ c ∈ (String.ofList ((hexWord 16 id.toNat).take 4)).toList, isAscii c = true := by
    rw [String.toList_ofList]
    exact fun c hc => isAscii_of_mem_hexWord (List.mem_of_mem_take hc)
  have hsplits : ((hexPadded 16 id.toNat).pos ⟨4⟩ hplace).Splits
      (String.ofList ((hexWord 16 id.toNat).take 4))
      (String.ofList ((hexWord 16 id.toNat).drop 4)) := by
    constructor
    · rw [← String.ofList_append, List.take_append_drop]
      rfl
    · rw [String.Pos.Raw.ext_iff, String.byteIdx_rawEndPos, utf8ByteSize_of_isAscii hascii,
        String.toList_ofList, List.length_take, hexWord_length]
      rfl
  obtain ⟨hbefore, hafter⟩ := (String.Pos.splits _).eq hsplits
  rw [uuid, hbefore, hafter]

theorem uuid_eq (id : UInt64) : uuid id = "-".intercalate (uuidGroups id) := by
  have hsignature : signature = "44617461" ++ "-" ++ "646f" ++ "-" ++ "6721" := by decide
  rw [uuid_eq_digits, hsignature, uuidGroups]
  simp only [String.intercalate_cons_cons, String.intercalate_singleton, String.append_assoc]

theorem isLowerHex_of_mem_uuidGroups (id : UInt64) :
    ∀ group ∈ uuidGroups id, ∀ c ∈ group.toList, isLowerHex c = true := by
  have hsignature : ∀ group ∈ ["44617461", "646f", "6721"],
      group.toList.all isLowerHex = true := by decide
  have hdigits : ∀ c ∈ hexWord 16 id.toNat, isLowerHex c = true :=
    fun _ => isLowerHex_of_mem_hexWord
  intro group hgroup c hc
  have hcases : group ∈ ["44617461", "646f", "6721"] ∨
      group = String.ofList ((hexWord 16 id.toNat).take 4) ∨
      group = String.ofList ((hexWord 16 id.toNat).drop 4) := by
    simpa [uuidGroups, or_assoc] using hgroup
  rcases hcases with hgroup | rfl | rfl
  · exact List.all_eq_true.mp (hsignature group hgroup) c hc
  · rw [String.toList_ofList] at hc
    exact hdigits c (List.mem_of_mem_take hc)
  · rw [String.toList_ofList] at hc
    exact hdigits c (List.mem_of_mem_drop hc)

theorem length_uuidGroups (id : UInt64) :
    (uuidGroups id).map (·.toList.length) = [8, 4, 4, 4, 12] := by
  have hsignature : ["44617461", "646f", "6721"].map (·.toList.length) = [8, 4, 4] := by decide
  simp only [uuidGroups, List.map_cons, List.map_nil, List.cons.injEq, and_true] at hsignature ⊢
  obtain ⟨hfirst, hsecond, hthird⟩ := hsignature
  refine ⟨hfirst, hsecond, hthird, ?_, ?_⟩
  · rw [String.toList_ofList, List.length_take, hexWord_length]
    rfl
  · rw [String.toList_ofList, List.length_drop, hexWord_length]

theorem trim_uuid (id : UInt64) : trim (uuid id) = uuid id := by
  have hpos : ∀ group ∈ uuidGroups id, 0 < group.toList.length := by
    intro group hgroup
    have hlength : group.toList.length ∈ [8, 4, 4, 4, 12] := by
      rw [← length_uuidGroups id]
      exact List.mem_map_of_mem hgroup
    have hall : ∀ n ∈ [8, 4, 4, 4, 12], 0 < n := by decide
    exact hall _ hlength
  rw [uuid_eq, trim_intercalate_of_isLowerHex "-" hpos (isLowerHex_of_mem_uuidGroups id)]

theorem uuidDigits?_uuid (id : UInt64) :
    uuidDigits? (uuid id) =
      some (String.ofList ("44617461646f6721".toList ++ hexWord 16 id.toNat)) := by
  have hhex := isLowerHex_of_mem_uuidGroups id
  have hpieces : pieces '-' (uuid id) = uuidGroups id := by
    rw [uuid_eq]
    apply pieces_intercalate (by decide) (List.cons_ne_nil _ _)
    intro group hgroup
    exact not_mem_of_isLowerHex (hhex group hgroup) (by decide)
  have hsizes : (uuidGroups id).map String.utf8ByteSize = [8, 4, 4, 4, 12] := by
    rw [← length_uuidGroups id]
    apply List.map_congr_left
    intro group hgroup
    exact utf8ByteSize_of_isLowerHex (hhex group hgroup)
  have hjoin : String.join (uuidGroups id) =
      String.ofList ("44617461646f6721".toList ++ hexWord 16 id.toNat) := by
    have hsignature : "44617461646f6721" = "44617461" ++ "646f" ++ "6721" := by decide
    rw [String.ofList_append, String.ofList_toList, hsignature,
      ← List.take_append_drop 4 (hexWord 16 id.toNat), String.ofList_append]
    simp [uuidGroups, String.join, String.append_assoc]
  simp only [uuidDigits?, hpieces]
  rw [if_pos hsizes, hjoin]

theorem begins_signature_uuid (id : UInt64) : begins signature (uuid id) = true := by
  rw [begins_iff, uuid_eq_digits, String.append_assoc, String.append_assoc, String.append_assoc]
  exact ⟨_, rfl⟩

theorem outcome_readSecondHalf (e : CodecError) (id : UInt64) :
    (readSecondHalf e (String.ofList ("44617461646f6721".toList ++ hexWord 16 id.toNat))).outcome =
      .ok id := by
  have hdrop : dropBytes? 16 (String.ofList ("44617461646f6721".toList ++ hexWord 16 id.toNat)) =
      some (hexPadded 16 id.toNat) := by
    refine dropBytes?_eq_some_iff.mpr ⟨"44617461646f6721", ?_, by decide⟩
    rw [String.ofList_append, String.ofList_toList, hexPadded]
  rw [readSecondHalf, hdrop]
  apply Reading.outcome_orFail_some
  rw [readUInt64_hexPadded]
  rfl

theorem outcome_readTraceId (id : UInt64) :
    (readTraceId (uuid id)).outcome = .ok (.bits64 id) := by
  simp only [readTraceId, trim_uuid, uuidDigits?_uuid, begins_signature_uuid, if_true,
    Reading.outcome_map, outcome_readSecondHalf]
  rfl

theorem outcome_readSpanId (id : UInt64) : (readSpanId (uuid id)).outcome = .ok id := by
  simp only [readSpanId, trim_uuid, uuidDigits?_uuid, outcome_readSecondHalf]

theorem outcome_readPriority {headers : Headers} {priority : Option SamplingPriority}
    (h : headers.get? priorityHeader = priority.map (·.text)) :
    (readPriority headers).outcome = .ok priority := by
  rw [readPriority, h]
  cases priority with
  | none => rfl
  | some priority => exact Reading.outcome_orFail_priority _ priority

theorem value_write (settings : Settings) (context : SpanContext) :
    (write settings context).value = identityHeaders context ++
      writeBaggage settings baggageStart encodeForm context.baggage := rfl

theorem names_identityHeaders_subperm (context : SpanContext) :
    ((identityHeaders context).map (·.name)).Subperm keys := by
  have hwritten : ((identityHeaders context).map (·.name)).Sublist
      [traceIdHeader, datadogTraceIdHeader, spanIdHeader, datadogSpanIdHeader, priorityHeader] := by
    rw [identityHeaders, List.map_append]
    exact (List.Sublist.refl _).append (Headers.names_toList_sublist _ _ _)
  have hkeys : List.Perm
      [traceIdHeader, datadogTraceIdHeader, spanIdHeader, datadogSpanIdHeader, priorityHeader]
      keys := by decide
  exact hwritten.subperm.trans hkeys.subperm

theorem name_of_mem_identityHeaders {context : SpanContext} :
    ∀ header ∈ identityHeaders context, header.name ∈ keys :=
  fun _ hheader => (names_identityHeaders_subperm context).subset (List.mem_map_of_mem hheader)

theorem get?_identityHeaders (context : SpanContext) :
    let headers : Headers := ⟨identityHeaders context⟩
    headers.get? traceIdHeader = some (uuid context.traceId.lower) ∧
      headers.get? spanIdHeader = some (uuid context.spanId) ∧
      headers.get? priorityHeader = context.priority.map (·.text) := by
  simp +decide [identityHeaders, Headers.get?_cons, Headers.get?_toList, Header.isNamed]

/-- The context that the headers of a trace identify. -/
def identified (context : SpanContext) : SpanContext where
  traceId := .bits64 context.traceId.lower
  spanId := context.spanId
  priority := context.priority
  style := some .haystack
  isRemote := true

theorem outcome_read_identified (settings : Settings) {context : SpanContext}
    (htraceId : context.traceId.lower ≠ 0) {headers : Headers}
    (htrace : headers.get? traceIdHeader = some (uuid context.traceId.lower))
    (hspan : headers.get? spanIdHeader = some (uuid context.spanId)) :
    (read settings headers).outcome = (readPriority headers).outcome.map fun priority =>
      (readSideData settings headers).value.complete { identified context with priority } := by
  have hzero : (TraceId.bits64 context.traceId.lower).isZero = false :=
    TraceId.isZero_of_lower htraceId
  rw [read, Reading.outcome_liftM_bind, htrace, Reading.outcome_bind_ok (outcome_readTraceId _)]
  simp only [hzero, Bool.false_eq_true, if_false, hspan]
  rw [Reading.outcome_bind_ok (outcome_readSpanId _), Reading.outcome_bind]
  cases (readPriority headers).outcome <;> rfl

theorem outcome_read_own (settings : Settings) {context : SpanContext}
    (htraceId : context.traceId.lower ≠ 0) {headers : Headers}
    (hheaders : ∀ key ∈ keys, headers.get? key = Headers.get? ⟨identityHeaders context⟩ key) :
    (read settings headers).outcome =
      .ok ((readSideData settings headers).value.complete (identified context)) := by
  obtain ⟨htrace, hspan, hpriority⟩ := get?_identityHeaders context
  rw [← hheaders _ (by decide)] at htrace hspan hpriority
  rw [outcome_read_identified settings htraceId htrace hspan, outcome_readPriority hpriority]
  rfl

theorem read_restates (settings : Settings) {context : SpanContext} (h : context.IsPortable)
    {headers : Headers} (hheaders : ∀ key ∈ keys, headers.get? key =
      Headers.get? ⟨identityHeaders context⟩ key) :
    ∃ found, (read settings headers).outcome = .ok (.full found) ∧ found.Restates context := by
  rw [outcome_read_own settings h.trace hheaders]
  apply SideData.complete_restates
  exact .of_priority_eq (.inl rfl) rfl rfl rfl

end TraceHeaders.Format.Haystack
