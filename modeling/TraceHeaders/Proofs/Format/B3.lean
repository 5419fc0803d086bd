import TraceHeaders.Proofs.Codec
import TraceHeaders.Proofs.Format.Portable
import TraceHeaders.Proofs.Text.Numeral

namespace TraceHeaders.Format.B3

open Text

theorem isLowerHex_of_mem_traceIdText {padded : Bool} {id : TraceId} {c : Char}
    (h : c ∈ (traceIdText padded id).toList) : isLowerHex c = true := by
  rw [traceIdText] at h
  split at h
  · cases id with
    | bits64 lower => exact isLowerHex_of_mem_hexPadded h
    | bits128 upper lower =>
        rw [TraceId.hex, String.toList_append, List.mem_append] at h
        exact h.elim isLowerHex_of_mem_hexPadded isLowerHex_of_mem_hexPadded
  · exact isLowerHex_of_mem_hex h

theorem isLowerHex_of_mem_spanIdText {padded : Bool} {id : UInt64} {c : Char}
    (h : c ∈ (spanIdText padded id).toList) : isLowerHex c = true := by
  rw [spanIdText] at h
  split at h
  · exact isLowerHex_of_mem_hexPadded h
  · exact isLowerHex_of_mem_hex h

theorem trim_of_length_pos {s : String} (hpos : 0 < s.toList.length)
    (h : ∀ c ∈ s.toList, isLowerHex c = true) : trim s = s :=
  trim_of_isLowerHex (List.length_pos_iff.mp hpos) h

theorem parseTraceId?_short {s : String} {x : UInt64} (h : ∀ c ∈ s.toList, isLowerHex c = true)
    (hpos : 0 < s.toList.length) (hlength : s.toList.length ≤ 16)
    (hread : readUInt64 16 s = .ok x) : parseTraceId? s = some (.bits64 x) := by
  simp only [parseTraceId?, trim_of_length_pos hpos h, utf8ByteSize_of_isLowerHex h]
  rw [if_neg (by omega), if_pos hlength, hread]
  rfl

theorem parseTraceId?_long {s : String} {n : Nat} (h : ∀ c ∈ s.toList, isLowerHex c = true)
    (hpos : 16 < s.toList.length) (hlength : s.toList.length ≤ 32)
    (hread : readNat 16 (UInt64.size * UInt64.size - 1) s.toList = .ok n) :
    parseTraceId? s = some (.wide n) := by
  have hsome : 0 < s.toList.length := by omega
  simp only [parseTraceId?, trim_of_length_pos hsome h, utf8ByteSize_of_isLowerHex h]
  rw [if_neg (by omega), if_neg (by omega), if_pos hlength, hread]
  rfl

theorem toNat_le_limit (id : TraceId) : id.toNat ≤ UInt64.size * UInt64.size - 1 := by
  have hlt := id.toNat_lt
  omega

theorem hex_bits128 (upper lower : UInt64) :
    (TraceId.bits128 upper lower).hex =
      hexPadded 32 (TraceId.bits128 upper lower).toNat := by
  have hlower := lower.toNat_lt
  have hhigh : (TraceId.bits128 upper lower).toNat / 16 ^ 16 = upper.toNat := by
    simp only [TraceId.toNat, TraceId.upper, TraceId.lower, UInt64.size]
    omega
  have hlow : (TraceId.bits128 upper lower).toNat % 16 ^ 16 = lower.toNat := by
    simp only [TraceId.toNat, TraceId.upper, TraceId.lower, UInt64.size]
    omega
  have hword := hexWord_append 16 16 (TraceId.bits128 upper lower).toNat
  rw [hhigh, ← hexWord_mod 16 (TraceId.bits128 upper lower).toNat, hlow] at hword
  rw [TraceId.hex, hexPadded, hexPadded, hexPadded, ← String.ofList_append, hword]

theorem parseTraceId?_hex (id : TraceId) : parseTraceId? id.hex = some id := by
  cases id with
  | bits64 lower =>
      have hlength : (hexPadded 16 lower.toNat).toList.length = 16 := by simp
      rw [TraceId.hex]
      exact parseTraceId?_short (fun _ => isLowerHex_of_mem_hexPadded) (by omega) (by omega)
        (readUInt64_hexPadded lower)
  | bits128 upper lower =>
      have hlength : (hexPadded 32 (TraceId.bits128 upper lower).toNat).toList.length = 32 := by
        simp
      have hwide : TraceId.wide (TraceId.bits128 upper lower).toNat = .bits128 upper lower :=
        TraceId.wide_toNat (.bits128 upper lower)
      have hparse : parseTraceId? (hexPadded 32 (TraceId.bits128 upper lower).toNat) =
          some (.wide (TraceId.bits128 upper lower).toNat) :=
        parseTraceId?_long (fun _ => isLowerHex_of_mem_hexPadded) (by omega) (by omega)
          (readNat_hexPadded (by decide) (TraceId.toNat_lt _) (toNat_le_limit _))
      rwa [← hex_bits128, hwide] at hparse

theorem parseTraceId?_shortest (id : TraceId) : parseTraceId? (hex id.toNat) = some id.narrow := by
  have hhex : ∀ c ∈ (hex id.toNat).toList, isLowerHex c = true := fun _ => isLowerHex_of_mem_hex
  have hpos : 0 < (hex id.toNat).toList.length := by
    rw [hex, String.toList_ofList]
    exact Nat.length_toDigits_pos
  have hlength (k : Nat) (hk : 0 < k) :
      (hex id.toNat).toList.length ≤ k ↔ id.toNat < 16 ^ k := by
    rw [hex, String.toList_ofList]
    exact Nat.length_toDigits_le_iff (by decide) hk
  have hsize : UInt64.size = 16 ^ 16 := by decide
  rw [TraceId.narrow]
  split
  · rename_i hupper
    have hnumber : id.toNat = id.lower.toNat := by simp [TraceId.toNat, hupper]
    have hshort : (hex id.toNat).toList.length ≤ 16 := by
      rw [hlength 16 (by decide), hnumber, ← hsize]
      exact id.lower.toNat_lt
    refine parseTraceId?_short hhex hpos hshort ?_
    rw [hnumber]
    exact readUInt64_hex id.lower
  · rename_i hupper
    have hlong : ¬ (hex id.toNat).toList.length ≤ 16 := by
      rw [hlength 16 (by decide), ← hsize, TraceId.toNat_lt_size_iff]
      exact hupper
    rw [← TraceId.wide_toNat]
    exact parseTraceId?_long hhex (by omega) ((hlength 32 (by decide)).mpr id.toNat_lt)
      (readNat_hex (toNat_le_limit id))

/-- A trace identifier as it comes back.  Padding keeps its width. -/
def carriedTraceId (padded : Bool) (id : TraceId) : TraceId := if padded then id else id.narrow

theorem parseTraceId?_traceIdText (padded : Bool) (id : TraceId) :
    parseTraceId? (traceIdText padded id) = some (carriedTraceId padded id) := by
  cases padded with
  | true => exact parseTraceId?_hex id
  | false => exact parseTraceId?_shortest id

theorem isViewOf_carriedTraceId (padded : Bool) (id : TraceId) :
    (carriedTraceId padded id).IsViewOf id := by
  cases padded with
  | true => exact id.isViewOf_self
  | false => exact id.isViewOf_narrow

theorem isZero_carriedTraceId (padded : Bool) (id : TraceId) :
    (carriedTraceId padded id).isZero = id.isZero := by
  cases padded with
  | true => rfl
  | false =>
      rw [Bool.eq_iff_iff, TraceId.isZero_iff, TraceId.isZero_iff]
      exact iff_of_eq (congrArg (· = 0) id.toNat_narrow)

theorem traceIdText_length_pos (padded : Bool) (id : TraceId) :
    0 < (traceIdText padded id).toList.length := by
  rw [traceIdText]
  split
  · cases id <;> simp [TraceId.hex]
  · rw [hex, String.toList_ofList]
    exact Nat.length_toDigits_pos

theorem spanIdText_length (padded : Bool) (id : UInt64) :
    0 < (spanIdText padded id).toList.length ∧ (spanIdText padded id).toList.length ≤ 16 := by
  rw [spanIdText]
  split
  · simp
  · rw [hex, String.toList_ofList]
    exact ⟨Nat.length_toDigits_pos,
      (Nat.length_toDigits_le_iff (by decide) (by decide)).mpr id.toNat_lt⟩

theorem parseSpanId?_spanIdText (padded : Bool) (id : UInt64) :
    parseSpanId? (spanIdText padded id) = some id := by
  have hhex : ∀ c ∈ (spanIdText padded id).toList, isLowerHex c = true :=
    fun _ => isLowerHex_of_mem_spanIdText
  obtain ⟨hpos, hlength⟩ := spanIdText_length padded id
  have hread : readUInt64 16 (spanIdText padded id) = .ok id := by
    rw [spanIdText]
    split
    · exact readUInt64_hexPadded id
    · exact readUInt64_hex id
  simp only [parseSpanId?, trim_of_length_pos hpos hhex, utf8ByteSize_of_isLowerHex hhex]
  rw [if_neg (by omega), hread]
  rfl

theorem outcome_readTraceId (style : Style) (padded : Bool) (id : TraceId) :
    (readTraceId style (traceIdText padded id)).outcome = .ok (carriedTraceId padded id) :=
  Reading.outcome_orFail_some (parseTraceId?_traceIdText padded id)

theorem outcome_readSpanId (style : Style) (padded : Bool) (id : UInt64) :
    (readSpanId style (spanIdText padded id)).outcome = .ok id :=
  Reading.outcome_orFail_some (parseSpanId?_spanIdText padded id)

/-- A priority as it comes back. -/
def carriedPriority (priority : SamplingPriority) : SamplingPriority :=
  if priority = .userKeep then .userKeep else .ofKeep priority.isKeep

@[simp] theorem isKeep_carriedPriority (priority : SamplingPriority) :
    (carriedPriority priority).isKeep = priority.isKeep := by
  rw [carriedPriority]
  split
  · rename_i huser
    rw [huser]
  · exact SamplingPriority.isKeep_ofKeep priority.isKeep

theorem value_readSampled_sampledText (priority : SamplingPriority) :
    (readSampled (sampledText priority)).value = some (.ofKeep priority.isKeep) := by
  have hone : trim "1" = "1" := by decide
  have hzero : trim "0" = "0" := by decide
  have hne : ¬ ("0" = "1" ∨ "0" = "true") := by decide
  rw [readSampled, sampledText]
  cases priority.isKeep with
  | true => simp only [if_true, hone, true_or, Logged.value_pure]; rfl
  | false => simp only [Bool.false_eq_true, if_false, hzero, hne, true_or, if_true]; rfl

/-- What the headers of a style carry of a context. -/
def carried (style : Style) (settings : Settings) (context : SpanContext) : SpanContext :=
  B3.context style (carriedTraceId settings.padsB3 context.traceId) context.spanId
    (context.priority.map carriedPriority)

theorem carried_restates (style : Style) (settings : Settings) (context : SpanContext) :
    (carried style settings context).Restates context where
  traceId := isViewOf_carriedTraceId settings.padsB3 context.traceId
  spanId := rfl
  decision := by
    intro priority hpriority
    exact ⟨carriedPriority priority, congrArg (Option.map carriedPriority) hpriority,
      isKeep_carriedPriority priority⟩
  links := rfl

namespace Multi

def ownHeaders (settings : Settings) (context : SpanContext) : List Header :=
  [⟨traceIdHeader, traceIdText settings.padsB3 context.traceId⟩,
    ⟨spanIdHeader, spanIdText settings.padsB3 context.spanId⟩] ++
  context.priority.elim [] priorityHeaders

theorem value_write (settings : Settings) {context : SpanContext}
    (h : context.traceId.isZero = false) :
    (write settings context).value = ownHeaders settings context := by
  rw [write, h]
  rfl

theorem names_ownHeaders_sublist (settings : Settings) (context : SpanContext) :
    ((ownHeaders settings context).map (·.name)).Sublist keys := by
  have hpriority : ((context.priority.elim [] priorityHeaders).map (·.name)).Sublist
      [sampledHeader, flagsHeader] := by
    cases context.priority with
    | none => exact List.nil_sublist _
    | some priority =>
        rw [Option.elim_some, priorityHeaders, List.map_cons]
        apply List.Sublist.cons_cons
        split
        · exact List.Sublist.refl _
        · exact List.nil_sublist _
  rw [ownHeaders, List.map_append]
  exact (List.Sublist.refl _).append hpriority

theorem get?_ownHeaders (settings : Settings) (context : SpanContext) :
    let headers : Headers := ⟨ownHeaders settings context⟩
    headers.get? traceIdHeader = some (traceIdText settings.padsB3 context.traceId) ∧
      headers.get? spanIdHeader = some (spanIdText settings.padsB3 context.spanId) ∧
      headers.get? sampledHeader = context.priority.map sampledText ∧
      headers.get? flagsHeader = if context.priority = some .userKeep then some "1" else none := by
  cases hpriority : context.priority with
  | none =>
      simp +decide [ownHeaders, hpriority, Headers.get?_cons, Header.isNamed]
  | some priority =>
      by_cases huser : priority = .userKeep
      · simp +decide [ownHeaders, hpriority, priorityHeaders, huser, Headers.get?_cons,
          Header.isNamed]
      · simp +decide [ownHeaders, hpriority, priorityHeaders, huser, Headers.get?_cons,
          Header.isNamed]

theorem value_readPriority {headers : Headers} {priority : Option SamplingPriority}
    (hsampled : headers.get? sampledHeader = priority.map sampledText)
    (hflags : headers.get? flagsHeader = if priority = some .userKeep then some "1" else none) :
    (readPriority headers).value = priority.map carriedPriority := by
  have htrim : trim "1" = "1" := by decide
  rw [readPriority, hflags, hsampled]
  cases priority with
  | none => rfl
  | some priority =>
      rw [Option.map_some, Option.map_some, carriedPriority]
      by_cases huser : priority = .userKeep
      · rw [if_pos (congrArg some huser), if_pos huser, Option.map_some, htrim, if_pos rfl]
        rfl
      · have hne : ¬ some priority = some SamplingPriority.userKeep :=
          fun h => huser (Option.some.inj h)
        rw [if_neg hne, if_neg huser, Option.map_none, if_neg (by simp)]
        exact value_readSampled_sampledText priority

theorem outcome_read_own {settings : Settings} {context : SpanContext}
    (h : context.traceId.isZero = false) {headers : Headers}
    (hheaders : ∀ key ∈ keys, headers.get? key = Headers.get? ⟨ownHeaders settings context⟩ key) :
    (read settings headers).outcome =
      .ok ((SideData.collect settings none headers).value.complete
        (carried .b3Multi settings context)) := by
  obtain ⟨htrace, hspan, hsampled, hflags⟩ := get?_ownHeaders settings context
  rw [← hheaders _ (by decide)] at htrace hspan hsampled hflags
  have htraceId := outcome_readTraceId .b3Multi settings.padsB3 context.traceId
  have hspanId := outcome_readSpanId .b3Multi settings.padsB3 context.spanId
  rw [read, Reading.outcome_liftM_bind, htrace, Reading.outcome_bind_ok htraceId]
  simp only [isZero_carriedTraceId, h, hspan, Bool.false_eq_true, if_false]
  rw [Reading.outcome_bind_ok hspanId, Reading.outcome_liftM_bind,
    value_readPriority hsampled hflags]
  rfl

theorem read_restates {settings : Settings} {context : SpanContext} (h : context.IsPortable)
    {headers : Headers} (hheaders : ∀ key ∈ keys, headers.get? key =
      Headers.get? ⟨ownHeaders settings context⟩ key) :
    ∃ found, (read settings headers).outcome = .ok (.full found) ∧ found.Restates context := by
  rw [outcome_read_own (TraceId.isZero_of_lower h.trace) hheaders]
  exact SideData.complete_restates _ (carried_restates .b3Multi settings context)

end Multi

namespace Single

def decisionField (priority : SamplingPriority) : String :=
  if priority = .userKeep then "d" else sampledText priority

theorem priorityText_eq (priority : SamplingPriority) :
    priorityText priority = "-" ++ decisionField priority := by
  rw [priorityText, decisionField]
  split <;> rfl

theorem isLowerHex_of_mem_decisionField {priority : SamplingPriority} {c : Char}
    (h : c ∈ (decisionField priority).toList) : isLowerHex c = true := by
  have hall : (decisionField priority).toList.all isLowerHex = true := by
    rw [decisionField, sampledText]
    split
    · decide
    · split <;> decide
  exact List.all_eq_true.mp hall c h

def fields (settings : Settings) (context : SpanContext) : List String :=
  traceIdText settings.padsB3 context.traceId :: spanIdText settings.padsB3 context.spanId ::
    (context.priority.map decisionField).toList

theorem isLowerHex_of_mem_fields (settings : Settings) (context : SpanContext) :
    ∀ field ∈ fields settings context, ∀ c ∈ field.toList, isLowerHex c = true := by
  intro field hfield c hc
  rcases List.mem_cons.mp hfield with rfl | hfield
  · exact isLowerHex_of_mem_traceIdText hc
  · rcases List.mem_cons.mp hfield with rfl | hfield
    · exact isLowerHex_of_mem_spanIdText hc
    · obtain ⟨priority, _, rfl⟩ := Option.map_eq_some_iff.mp (Option.mem_toList.mp hfield)
      exact isLowerHex_of_mem_decisionField hc

theorem length_pos_of_mem_fields (settings : Settings) (context : SpanContext) :
    ∀ field ∈ fields settings context, 0 < field.toList.length := by
  intro field hfield
  rcases List.mem_cons.mp hfield with rfl | hfield
  · exact traceIdText_length_pos settings.padsB3 context.traceId
  · rcases List.mem_cons.mp hfield with rfl | hfield
    · exact (spanIdText_length settings.padsB3 context.spanId).1
    · obtain ⟨priority, _, rfl⟩ := Option.map_eq_some_iff.mp (Option.mem_toList.mp hfield)
      rw [decisionField, sampledText]
      split
      · decide
      · split <;> decide

def ownHeaders (settings : Settings) (context : SpanContext) : List Header :=
  [⟨header, "-".intercalate (fields settings context)⟩]

theorem value_write (settings : Settings) {context : SpanContext}
    (h : context.traceId.isZero = false) :
    (write settings context).value = ownHeaders settings context := by
  have htext : traceIdText settings.padsB3 context.traceId ++ "-" ++
      spanIdText settings.padsB3 context.spanId ++ context.priority.elim "" priorityText =
        "-".intercalate (fields settings context) := by
    rw [fields]
    cases context.priority with
    | none => simp
    | some priority =>
        simp [priorityText_eq, String.intercalate_cons_cons, String.append_assoc]
  rw [write, h, ownHeaders, ← htext]
  rfl

theorem pieces_fields (settings : Settings) (context : SpanContext) :
    pieces '-' (trim ("-".intercalate (fields settings context))) = fields settings context := by
  have hhex := isLowerHex_of_mem_fields settings context
  rw [trim_intercalate_of_isLowerHex "-" (length_pos_of_mem_fields settings context) hhex]
  apply pieces_intercalate (by decide) (List.cons_ne_nil _ _)
  intro field hfield
  exact not_mem_of_isLowerHex (hhex field hfield) (by decide)

theorem value_readPriority (priority : Option SamplingPriority) :
    (readPriority (priority.map decisionField)).value = priority.map carriedPriority := by
  cases priority with
  | none => rfl
  | some priority =>
      rw [Option.map_some, Option.map_some, decisionField, carriedPriority]
      by_cases huser : priority = .userKeep
      · rw [if_pos huser, if_pos huser]
        rfl
      · have hne : sampledText priority ≠ "d" := by
          rw [sampledText]
          split <;> decide
        have hread : readPriority (some (sampledText priority)) =
            readSampled (sampledText priority) := by
          rw [readPriority]
          simpa using hne
        rw [if_neg huser, if_neg huser, hread]
        exact value_readSampled_sampledText priority

theorem outcome_read_own {settings : Settings} {context : SpanContext}
    (h : context.traceId.isZero = false) {headers : Headers}
    (hheaders : ∀ key ∈ keys, headers.get? key = Headers.get? ⟨ownHeaders settings context⟩ key) :
    (read settings headers).outcome =
      .ok ((SideData.collect settings none headers).value.complete
        (carried .b3Single settings context)) := by
  have hheader : headers.get? header = some ("-".intercalate (fields settings context)) := by
    rw [hheaders _ (by decide), ownHeaders, Headers.get?_cons, Headers.isNamed_mk_self, if_pos rfl]
  have htraceId := outcome_readTraceId .b3Single settings.padsB3 context.traceId
  have hspanId := outcome_readSpanId .b3Single settings.padsB3 context.spanId
  have hlength : ¬ 2 < (context.priority.map decisionField).toList.length := by
    cases context.priority <;> simp
  have hhead : (context.priority.map decisionField).toList.head? =
      context.priority.map decisionField := by
    cases context.priority <;> rfl
  rw [read, Reading.outcome_liftM_bind, hheader, Option.map_some]
  simp only [pieces_fields]
  rw [fields]
  simp only [hlength, if_false]
  rw [Reading.outcome_bind_ok htraceId]
  simp only [isZero_carriedTraceId, h, Bool.false_eq_true, if_false]
  rw [Reading.outcome_bind_ok hspanId, Reading.outcome_liftM_bind, hhead, value_readPriority]
  rfl

theorem read_restates {settings : Settings} {context : SpanContext} (h : context.IsPortable)
    {headers : Headers} (hheaders : ∀ key ∈ keys, headers.get? key =
      Headers.get? ⟨ownHeaders settings context⟩ key) :
    ∃ found, (read settings headers).outcome = .ok (.full found) ∧ found.Restates context := by
  rw [outcome_read_own (TraceId.isZero_of_lower h.trace) hheaders]
  exact SideData.complete_restates _ (carried_restates .b3Single settings context)

end Single

/-- What comes back of a context: the trace identifier, whose width is kept by padding and is otherwise
that of the number, the span, and the decision, with a request to debug apart. -/
structure IsCarried (settings : Settings) (context found : SpanContext) : Prop where
  padded : settings.padsB3 = true → found.traceId = context.traceId
  unpadded : settings.padsB3 = false → found.traceId =
    if context.traceId.toNat < UInt64.size then .bits64 context.traceId.lower
    else .bits128 context.traceId.upper context.traceId.lower
  spanId : found.spanId = context.spanId
  priority : found.priority = context.priority.map carriedPriority
  mechanism : found.mechanism = none

theorem carried_isCarried (style : Style) (settings : Settings) (context : SpanContext)
    (side : SideData) :
    IsCarried settings context (side.completed (carried style settings context)) where
  padded := by
    intro hpads
    show carriedTraceId settings.padsB3 context.traceId = context.traceId
    rw [hpads]
    rfl
  unpadded := by
    intro hpads
    show carriedTraceId settings.padsB3 context.traceId = _
    rw [hpads]
    simp only [TraceId.toNat_lt_size_iff]
    rfl
  spanId := rfl
  priority := rfl
  mechanism := rfl

/-- Both styles read back what they write, and agree on what that is, for every context of a trace. -/
theorem read_write_agree (settings : Settings) {context : SpanContext}
    (h : context.traceId.toNat ≠ 0) :
    ∃ multi single,
      (Multi.read settings ⟨(Multi.write settings context).value⟩).outcome = .ok (.full multi) ∧
      (Single.read settings ⟨(Single.write settings context).value⟩).outcome = .ok (.full single) ∧
      IsCarried settings context multi ∧ IsCarried settings context single ∧
      multi.traceId = single.traceId ∧ multi.spanId = single.spanId ∧
      multi.priority = single.priority := by
  have hzero : context.traceId.isZero = false := by
    rw [← Bool.not_eq_true, TraceId.isZero_iff]
    exact h
  rw [Multi.value_write settings hzero, Single.value_write settings hzero]
  exact ⟨_, _, Multi.outcome_read_own hzero fun _ _ => rfl,
    Single.outcome_read_own hzero fun _ _ => rfl, carried_isCarried .b3Multi settings context _,
    carried_isCarried .b3Single settings context _, rfl, rfl, rfl⟩

/-- A context whose identifier is wider than its number, with a priority that the format rounds. -/
def wideContext : SpanContext where
  traceId := .bits128 0 0xabc
  priority := some ⟨5⟩

theorem read_write_agree_wide :
    ∃ padded unpadded,
      (Single.read {} ⟨[⟨"b3", "00000000000000000000000000000abc-0000000000000000-1"⟩]⟩).outcome =
        .ok (.full padded) ∧ IsCarried {} wideContext padded ∧
      (Single.read { padsB3 := false } ⟨[⟨"b3", "abc-0-1"⟩]⟩).outcome = .ok (.full unpadded) ∧
        IsCarried { padsB3 := false } wideContext unpadded ∧
      unpadded.traceId = .bits64 0xabc := by
  have hnonzero : wideContext.traceId.toNat ≠ 0 := by decide
  obtain ⟨_, padded, _, hpadded, _, hcarried, _⟩ := read_write_agree {} hnonzero
  obtain ⟨_, unpadded, _, hunpadded, _, hshort, _⟩ := read_write_agree { padsB3 := false } hnonzero
  have hwritten : (Single.write {} wideContext).value =
      [⟨"b3", "00000000000000000000000000000abc-0000000000000000-1"⟩] := by decide +kernel
  have hwrittenShort : (Single.write { padsB3 := false } wideContext).value =
      [⟨"b3", "abc-0-1"⟩] := by decide +kernel
  rw [hwritten] at hpadded
  rw [hwrittenShort] at hunpadded
  exact ⟨padded, unpadded, hpadded, hcarried, hunpadded, hshort,
    (hshort.unpadded rfl).trans (if_pos (by decide))⟩

end TraceHeaders.Format.B3
