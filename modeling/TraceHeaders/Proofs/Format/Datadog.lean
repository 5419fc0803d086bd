import TraceHeaders.Proofs.Codec
import TraceHeaders.Proofs.Format.Portable
import TraceHeaders.Proofs.Text.Numeral

namespace TraceHeaders.Format.Datadog

open Text

/-- The tags that are written, the upper half of the trace identifier last. -/
def tagEntries (context : SpanContext) : List (String × String) :=
  context.propagationTags.tags.toList.filter (·.1 != upperBitsTag) ++
    (context.traceId.upper?.map fun upper => (upperBitsTag, hexPadded 16 upper.toNat)).toList

def entryText (entry : String × String) : String := entry.1 ++ "=" ++ entry.2

theorem tagsText_eq (context : SpanContext) :
    tagsText context = ",".intercalate ((tagEntries context).map entryText) := rfl

/-- An entry as it is read.  A key with an equals sign is cut short. -/
def readEntry (entry : String × String) : String × String :=
  (cut? '=' (entryText entry)).getD entry

theorem readEntry_of_not_mem {entry : String × String} (h : '=' ∉ entry.1.toList) :
    cut? '=' (entryText entry) = some entry := cut?_append (by decide) h entry.2

theorem splitEntry_entryText (entry : String × String) :
    splitEntry (entryText entry) = .ok (readEntry entry) := by
  have hmem : '=' ∈ (entryText entry).toList := by simp [entryText]
  rw [splitEntry, readEntry]
  cases hcut : cut? '=' (entryText entry) with
  | some pair => rfl
  | none => exact absurd hmem (cut?_eq_none_iff.mp hcut)

theorem mapM_splitEntry (entries : List (String × String)) :
    (entries.map entryText).mapM splitEntry = .ok (entries.map readEntry) := by
  induction entries with
  | nil => rfl
  | cons entry entries ih =>
      rw [List.map_cons, List.mapM_cons, splitEntry_entryText, ih]
      rfl

theorem splitEntry_eq_ok_iff {text : String} {entry : String × String} :
    splitEntry text = .ok entry ↔ '=' ∉ entry.1.toList ∧ text = entryText entry := by
  have hcut : cut? '=' text = some entry ↔ '=' ∉ entry.1.toList ∧ text = entryText entry :=
    cut?_eq_some_iff
  rw [← hcut, splitEntry]
  cases cut? '=' text with
  | none => simp
  | some pair => simp

theorem mapM_cons_eq_ok_iff {ε α β : Type} {f : α → Except ε β} {x : α} {xs : List α}
    {ys : List β} :
    (x :: xs).mapM f = .ok ys ↔ ∃ z zs, f x = .ok z ∧ xs.mapM f = .ok zs ∧ ys = z :: zs := by
  rw [List.mapM_cons]
  cases f x with
  | error e => simp [bind, Except.bind]
  | ok z => cases xs.mapM f <;> simp [bind, Except.bind, pure, Except.pure, eq_comm]

theorem mapM_splitEntry_eq_ok_iff {texts : List String} {entries : List (String × String)} :
    texts.mapM splitEntry = .ok entries ↔
      texts = entries.map entryText ∧ ∀ entry ∈ entries, '=' ∉ entry.1.toList := by
  induction texts generalizing entries with
  | nil => cases entries <;> simp [pure, Except.pure]
  | cons text texts ih =>
      rw [mapM_cons_eq_ok_iff]
      constructor
      · rintro ⟨entry, rest, hentry, hrest, rfl⟩
        obtain ⟨hkey, rfl⟩ := splitEntry_eq_ok_iff.mp hentry
        obtain ⟨rfl, hkeys⟩ := ih.mp hrest
        exact ⟨rfl, List.forall_mem_cons.mpr ⟨hkey, hkeys⟩⟩
      · rintro ⟨htexts, hkeys⟩
        obtain ⟨entry, rest, rfl, rfl, rfl⟩ := List.map_eq_cons_iff.mp htexts.symm
        obtain ⟨hkey, hrest⟩ := List.forall_mem_cons.mp hkeys
        exact ⟨entry, rest, splitEntry_eq_ok_iff.mpr ⟨hkey, rfl⟩, ih.mpr ⟨rfl, hrest⟩, rfl⟩

/-- A key that is cut short leaves an equals sign in the value. -/
theorem readEntry_eq_or (entry : String × String) :
    readEntry entry = entry ∨ '=' ∈ (readEntry entry).2.toList := by
  cases hcut : cut? '=' entry.1 with
  | none =>
      rw [readEntry, readEntry_of_not_mem (cut?_eq_none_iff.mp hcut)]
      exact .inl rfl
  | some pair =>
      obtain ⟨hbefore, hkey⟩ := cut?_eq_some_iff.mp hcut
      have htext : entryText entry = pair.1 ++ "=" ++ (pair.2 ++ "=" ++ entry.2) := by
        rw [entryText, hkey]
        simp only [String.append_assoc]
        rfl
      rw [readEntry, htext, cut?_append (by decide) hbefore]
      right
      simp

theorem filter_eq_self {α : Type} {accepts : α → Bool} {x : Option α}
    (h : ∀ a, x = some a → accepts a = true) : x.filter accepts = x := by
  cases x with
  | none => rfl
  | some a => rw [Option.filter_some, if_pos (h a rfl)]

theorem get?_dropUnless (valid : String → Bool) (key other : String) (tags : PropagationTags) :
    (dropUnless valid key tags).1.get? other =
      if other = key then (tags.get? key).filter valid else tags.get? other := by
  rw [dropUnless]
  cases hvalue : tags.get? key with
  | none =>
      simp only [Option.filter_none]
      split
      · rename_i heq
        rw [heq, hvalue]
      · rfl
  | some value =>
      cases hvalid : valid value with
      | false => simpa [hvalid, Option.filter_some] using tags.get?_erase key other
      | true =>
          simp only [hvalid, Option.filter_some, if_true]
          split
          · rename_i heq
            rw [heq, hvalue]
          · rfl

theorem value_checkTags (tags : PropagationTags) :
    let upper := dropUnless isUpperBits upperBitsTag tags
    let decision := dropUnless isDecision decisionMakerTag upper.1
    (checkTags tags).value = (decision.1,
      if decision.2.isSome = true then some .undecodable
      else upper.2.map .malformedUpperBits) := by
  intro upper decision
  rw [checkTags]
  cases hupper : upper.2 <;> cases hdecision : decision.2 <;> simp [upper, decision, hupper, hdecision]

theorem get?_checkTags (tags : PropagationTags) (key : String) :
    (checkTags tags).value.1.get? key =
      if key = decisionMakerTag then (tags.get? key).filter isDecision
      else if key = upperBitsTag then (tags.get? key).filter isUpperBits
      else tags.get? key := by
  have hne : ¬ decisionMakerTag = upperBitsTag := by decide
  rw [value_checkTags, get?_dropUnless, get?_dropUnless, get?_dropUnless, if_neg hne]
  split
  · rename_i hkey
    rw [hkey]
  · split
    · rename_i hkey
      rw [hkey]
    · rfl

theorem get?_checkTags_ofList {key : String} (hkey : isPropagated key = true)
    (entries : List (String × String)) :
    (checkTags (.ofList entries)).value.1.get? key =
      (lastOf? key entries).filter fun value =>
        if key = decisionMakerTag then isDecision value
        else if key = upperBitsTag then isUpperBits value else true := by
  rw [get?_checkTags, PropagationTags.get?_ofList hkey]
  split
  · rfl
  · split
    · rfl
    · exact (filter_eq_self fun _ _ => rfl).symm

theorem upperBits?_checkTags (tags : PropagationTags) :
    (checkTags tags).value.1.upperBits? = tags.upperBits?.filter isUpperBits :=
  get?_checkTags tags upperBitsTag

theorem dropUnless_of_valid {valid : String → Bool} {key : String} {tags : PropagationTags}
    (h : ∀ value, tags.get? key = some value → valid value = true) :
    dropUnless valid key tags = (tags, none) := by
  rw [dropUnless]
  cases hvalue : tags.get? key with
  | none => rfl
  | some value => simp only [h value hvalue, if_true]

theorem value_checkTags_of_valid {tags : PropagationTags}
    (hupper : ∀ value, tags.upperBits? = some value → isUpperBits value = true)
    (hdecision : ∀ value, tags.get? decisionMakerTag = some value → isDecision value = true) :
    (checkTags tags).value = (tags, none) := by
  rw [checkTags, dropUnless_of_valid hupper]
  simp only [dropUnless_of_valid hdecision]
  rfl

theorem exists_of_isUpperBits {s : String} (h : isUpperBits s = true) :
    ∃ upper : UInt64, hexPadded 16 upper.toNat = s := by
  rw [isUpperBits, Bool.and_eq_true, beq_iff_eq, List.all_eq_true] at h
  exact exists_hexPadded_eq h.1 h.2

theorem isDecision_iff {s : String} :
    isDecision s = true ↔
      ∃ digits, s.toList = '-' :: digits ∧ digits ≠ [] ∧ ∀ c ∈ digits, c.isDigit = true := by
  rw [isDecision]
  split
  · rename_i digits hdigits
    simp [hdigits, List.all_eq_true]
  · rename_i hother
    simp only [Bool.false_eq_true, false_iff]
    rintro ⟨digits, hdigits, _⟩
    exact hother digits hdigits

theorem isUpperBits_hexPadded (upper : UInt64) :
    isUpperBits (hexPadded 16 upper.toNat) = true := by
  rw [isUpperBits, toList_hexPadded, hexWord_length, Bool.and_eq_true]
  exact ⟨rfl, List.all_eq_true.mpr fun _ => isLowerHex_of_mem_hexWord⟩

theorem isUpperBits_of_mem {s : String} (h : '=' ∈ s.toList) : isUpperBits s = false := by
  rw [isUpperBits, Bool.and_eq_false_iff]
  right
  rw [List.all_eq_false]
  exact ⟨'=', h, by decide⟩

theorem lastOf?_tagEntries (context : SpanContext) :
    (lastOf? upperBitsTag ((tagEntries context).map readEntry)).filter isUpperBits =
      context.traceId.upper?.map fun upper => hexPadded 16 upper.toNat := by
  rw [tagEntries, List.map_append, lastOf?_append]
  cases context.traceId.upper? with
  | some upper =>
      have hread : readEntry (upperBitsTag, hexPadded 16 upper.toNat) =
          (upperBitsTag, hexPadded 16 upper.toNat) := by
        have hmem : '=' ∉ upperBitsTag.toList := by decide
        rw [readEntry, readEntry_of_not_mem hmem, Option.getD_some]
      rw [Option.map_some, Option.toList_some, List.map_singleton, hread, lastOf?_singleton,
        if_pos rfl, Option.some_or, Option.filter_some, if_pos (isUpperBits_hexPadded upper)]
      rfl
  | none =>
      rw [Option.map_none, Option.toList_none, List.map_nil, lastOf?_nil, Option.none_or,
        Option.map_none, Option.filter_eq_none_iff]
      -- No entry of this key is written, but a longer key that is cut short may be read as one.
      intro value hvalue
      obtain ⟨entry, hentry, hread⟩ := List.mem_map.mp (mem_of_lastOf? hvalue)
      have hne : entry.1 ≠ upperBitsTag := by simpa using (List.mem_filter.mp hentry).2
      rcases readEntry_eq_or entry with hsame | hmem
      · rw [hsame] at hread
        exact absurd (congrArg Prod.fst hread) hne
      · rw [hread] at hmem
        rw [isUpperBits_of_mem hmem]
        exact Bool.false_ne_true

/-- The value of the tags header, if it is written. -/
def writtenTags? (limit : Nat) (context : SpanContext) : Option String :=
  if limit = 0 ∨ (tagsText context).isEmpty = true ∨ limit < (tagsText context).utf8ByteSize then none
  else some (tagsText context)

theorem value_writeTags (limit : Nat) (context : SpanContext) :
    (writeTags limit context).value =
      ((writtenTags? limit context).map fun text => ⟨tagsHeader, text⟩).toList := by
  rw [writeTags, writtenTags?]
  by_cases hlimit : limit = 0
  · simp [hlimit]
  · by_cases hempty : (tagsText context).isEmpty = true
    · simp [hlimit, hempty]
    · by_cases hlong : limit < (tagsText context).utf8ByteSize
      · simp [hlimit, hempty, hlong]
      · simp [hlimit, hempty, hlong]

theorem not_mem_entryText {entry : String × String}
    (h : ',' ∉ entry.1.toList ∧ ',' ∉ entry.2.toList) : ',' ∉ (entryText entry).toList := by
  simp only [entryText, String.toList_append, List.mem_append, not_or]
  exact ⟨⟨h.1, by decide⟩, h.2⟩

theorem upperEntry_eq {context : SpanContext} {entry : String × String}
    (h : entry ∈ (context.traceId.upper?.map fun upper =>
      (upperBitsTag, hexPadded 16 upper.toNat)).toList) :
    ∃ upper, context.traceId.upper? = some upper ∧
      entry = (upperBitsTag, hexPadded 16 upper.toNat) := by
  obtain ⟨upper, hupper, rfl⟩ := Option.map_eq_some_iff.mp (Option.mem_toList.mp h)
  exact ⟨upper, hupper, rfl⟩

theorem not_mem_of_mem_tagEntries {context : SpanContext}
    (h : ∀ tag ∈ context.propagationTags.tags.toList, ',' ∉ tag.1.toList ∧ ',' ∉ tag.2.toList)
    {entry : String × String} (hentry : entry ∈ tagEntries context) :
    ',' ∉ entry.1.toList ∧ ',' ∉ entry.2.toList := by
  rcases List.mem_append.mp hentry with hentry | hentry
  · exact h entry (List.mem_filter.mp hentry).1
  · obtain ⟨upper, _, rfl⟩ := upperEntry_eq hentry
    have hkey : ',' ∉ upperBitsTag.toList := by decide
    exact ⟨hkey, not_mem_of_isLowerHex (fun _ => isLowerHex_of_mem_hexPadded) (by decide)⟩

/-- What a reader makes of a list that was taken apart at its commas. -/
def readTexts (texts : List String) : PropagationTags × Option TagsDefect :=
  match texts.mapM splitEntry with
  | .ok entries => (checkTags (.ofList entries)).value
  | .error _ => (∅, some .undecodable)

theorem value_readTags_some {header : String} {limit : Nat} (hempty : ¬ header.isEmpty = true)
    (hlimit : limit ≠ 0) (hfits : header.utf8ByteSize ≤ limit) :
    (readTags (some header) limit).value = readTexts (pieces ',' header) := by
  simp only [readTags]
  rw [if_neg hempty, if_neg hlimit, if_neg (Nat.not_lt.mpr hfits), readTexts]
  cases (pieces ',' header).mapM splitEntry <;> rfl

theorem tagEntries_eq_nil {context : SpanContext} (h : (tagsText context).isEmpty = true) :
    tagEntries context = [] := by
  rw [String.isEmpty_iff, tagsText_eq] at h
  cases hentries : tagEntries context with
  | nil => rfl
  | cons entry entries =>
      rw [hentries, List.map_cons] at h
      have hmem : '=' ∈ (",".intercalate (entryText entry :: entries.map entryText)).toList := by
        cases entries <;> simp [entryText, String.intercalate_cons_cons]
      rw [h] at hmem
      exact absurd hmem List.not_mem_nil

/-- The list of the propagated tags is written, or there is nothing to write. -/
def Fits (limit : Nat) (context : SpanContext) : Prop :=
  (tagsText context).isEmpty = true ∨
    limit ≠ 0 ∧ (tagsText context).utf8ByteSize ≤ limit

theorem writtenTags?_eq_some_iff {limit : Nat} {context : SpanContext} {text : String} :
    writtenTags? limit context = some text ↔
      limit ≠ 0 ∧ (tagsText context).isEmpty = false ∧ (tagsText context).utf8ByteSize ≤ limit ∧
        tagsText context = text := by
  rw [writtenTags?]
  split
  · rename_i hunwritten
    simp only [reduceCtorEq, false_iff, not_and]
    intro hlimit hempty hfits
    rcases hunwritten with h | h | h
    · exact absurd h hlimit
    · exact absurd h (by rw [hempty]; exact Bool.false_ne_true)
    · exact absurd h (Nat.not_lt.mpr hfits)
  · rename_i hwritten
    simp only [not_or, Nat.not_lt, Bool.not_eq_true] at hwritten
    simp [hwritten]

/-- What is written is taken apart at every comma, those inside of an entry included. -/
theorem value_readTags_written {limit : Nat} {context : SpanContext} (h : Fits limit context) :
    (readTags (writtenTags? limit context) limit).value =
      readTexts ((tagEntries context).flatMap fun entry => pieces ',' (entryText entry)) := by
  by_cases hempty : (tagsText context).isEmpty = true
  · rw [writtenTags?, if_pos (.inr (.inl hempty)), tagEntries_eq_nil hempty]
    rfl
  · obtain ⟨hlimit, hfits⟩ := h.resolve_left hempty
    have hwritten : writtenTags? limit context = some (tagsText context) :=
      writtenTags?_eq_some_iff.mpr ⟨hlimit, Bool.eq_false_iff.mpr hempty, hfits, rfl⟩
    have hne : (tagEntries context).map entryText ≠ [] := by
      intro hnil
      rw [tagsText_eq, hnil] at hempty
      exact hempty rfl
    rw [hwritten, value_readTags_some hempty hlimit hfits, tagsText_eq,
      pieces_intercalate_eq_flatMap (by decide) hne, List.flatMap_map]

theorem flatMap_pieces_entryText {entries : List (String × String)}
    (h : ∀ entry ∈ entries, ',' ∉ entry.1.toList ∧ ',' ∉ entry.2.toList) :
    (entries.flatMap fun entry => pieces ',' (entryText entry)) = entries.map entryText := by
  rw [← List.flatMap_singleton' (entries.map entryText), List.flatMap_map]
  exact List.flatMap_congr fun entry hentry =>
    pieces_eq_singleton (not_mem_entryText (h entry hentry))

/-- The upper half of the identifier is read whole or not at all. -/
theorem upperBits?_readTags {context : SpanContext} (h : context.IsPortable) (limit : Nat) :
    (readTags (writtenTags? limit context) limit).value.1.upperBits? = none ∨
      (readTags (writtenTags? limit context) limit).value.1.upperBits? =
        context.traceId.upper?.map fun upper => hexPadded 16 upper.toNat := by
  cases hwritten : writtenTags? limit context with
  | none => exact .inl rfl
  | some text =>
      right
      obtain ⟨hlimit, _, hfits, _⟩ := writtenTags?_eq_some_iff.mp hwritten
      rw [← hwritten, value_readTags_written (.inr ⟨hlimit, hfits⟩),
        flatMap_pieces_entryText fun entry => not_mem_of_mem_tagEntries h.tags, readTexts,
        mapM_splitEntry]
      simp only []
      rw [upperBits?_checkTags, PropagationTags.upperBits?,
        PropagationTags.get?_ofList (by decide), lastOf?_tagEntries]

theorem withUpperHex_hexPadded (lower upper : UInt64) :
    TraceId.withUpperHex lower (some (hexPadded 16 upper.toNat)) = .bits128 upper lower := by
  rw [TraceId.withUpperHex, Option.bind_some, readUInt64_hexPadded]
  rfl

theorem withUpperHex_upper? (id : TraceId) :
    TraceId.withUpperHex id.lower (id.upper?.map fun upper => hexPadded 16 upper.toNat) =
      id.narrow := by
  rw [TraceId.upper?, TraceId.narrow]
  split
  · rfl
  · exact withUpperHex_hexPadded id.lower id.upper

@[simp] theorem lower_withUpperHex (lower : UInt64) (upperHex : Option String) :
    (TraceId.withUpperHex lower upperHex).lower = lower := by
  rw [TraceId.withUpperHex]
  split <;> rfl

theorem isViewOf_withUpperHex {id : TraceId} {upperHex : Option String}
    (h : upperHex = none ∨
      upperHex = id.upper?.map fun upper => hexPadded 16 upper.toNat) :
    (TraceId.withUpperHex id.lower upperHex).IsViewOf id := by
  rcases h with rfl | rfl
  · exact .inl rfl
  · rw [withUpperHex_upper?]
    exact id.isViewOf_narrow

def ownHeaders (settings : Settings) (context : SpanContext) : List Header :=
  identityHeaders context ++ (writeTags settings.tagsLimit context).value

theorem value_write (settings : Settings) (context : SpanContext) :
    (write settings context).value = ownHeaders settings context ++
      writeBaggage settings openTracingStart encodeForm context.baggage := rfl

theorem names_identityHeaders_sublist (context : SpanContext) :
    ((identityHeaders context).map (·.name)).Sublist
      [traceIdHeader, parentIdHeader, priorityHeader, originHeader] := by
  rw [identityHeaders, List.map_append, List.map_append]
  exact ((List.Sublist.refl _).append (Headers.names_toList_sublist _ _ _)).append
    (Headers.names_toList_sublist _ _ fun origin => origin)

theorem names_ownHeaders_sublist (settings : Settings) (context : SpanContext) :
    ((ownHeaders settings context).map (·.name)).Sublist keys := by
  rw [ownHeaders, value_writeTags, List.map_append]
  exact (names_identityHeaders_sublist context).append
    (Headers.names_toList_sublist _ _ fun text => text)

theorem name_of_mem_identityHeaders {context : SpanContext} :
    ∀ header ∈ identityHeaders context,
      header.name ∈ [traceIdHeader, parentIdHeader, priorityHeader, originHeader] :=
  fun _ hheader => (names_identityHeaders_sublist context).subset (List.mem_map_of_mem hheader)

theorem name_of_mem_ownHeaders {settings : Settings} {context : SpanContext} :
    ∀ header ∈ ownHeaders settings context, header.name ∈ keys :=
  fun _ hheader => (names_ownHeaders_sublist settings context).subset (List.mem_map_of_mem hheader)

theorem get?_ownHeaders (settings : Settings) (context : SpanContext) :
    let headers : Headers := ⟨ownHeaders settings context⟩
    headers.get? traceIdHeader = some (decimal context.traceId.lower.toNat) ∧
      headers.get? parentIdHeader = some (decimal context.spanId.toNat) ∧
      headers.get? priorityHeader = context.priority.map (·.text) ∧
      headers.get? originHeader = context.origin ∧
      headers.get? tagsHeader = writtenTags? settings.tagsLimit context := by
  have horigin := Headers.get?_toList context.origin originHeader fun origin => origin
  have htags := Headers.get?_toList (writtenTags? settings.tagsLimit context) tagsHeader
    fun text => text
  simp +decide [ownHeaders, identityHeaders, value_writeTags, Headers.get?_append,
    Headers.get?_cons, Headers.get?_toList, Header.isNamed, horigin, htags]

theorem outcome_readId (field : Field) (x : UInt64) :
    (readId field (decimal x.toNat)).outcome = .ok x := by
  apply Reading.outcome_orFail_some
  rw [trim_decimal, readUInt64_decimal]
  rfl

theorem outcome_readPriority {headers : Headers} {priority : Option SamplingPriority}
    (h : headers.get? priorityHeader = priority.map (·.text)) :
    (readPriority headers).outcome = .ok priority := by
  rw [readPriority, h]
  cases priority with
  | none => rfl
  | some priority => exact Reading.outcome_orFail_priority _ priority

/-- The context that the headers of a trace identify, by what was read from each of them. -/
def identified (lower spanId : UInt64) (priority : Option SamplingPriority) (origin : Option String)
    (tags : PropagationTags × Option TagsDefect) : SpanContext where
  traceId := .withUpperHex lower tags.1.upperBits?
  spanId := spanId
  priority := priority
  mechanism := (tags.1.get? decisionMakerTag).bind SamplingMechanism.parse?
  origin := origin
  tags := tags.2.elim ∅ fun defect => TextMap.ofList [(errorTag, defect.text)]
  propagationTags := tags.1
  style := some .datadog
  isRemote := true

theorem outcome_read {settings : Settings} {headers : Headers} {lower spanId : UInt64}
    {priority : Option SamplingPriority} (hlower : (readTraceId headers).outcome = .ok lower)
    (hne : lower ≠ 0) (hspan : (readParentId headers).outcome = .ok spanId)
    (hpriority : (readPriority headers).outcome = .ok priority) :
    (read settings headers).outcome =
      .ok ((SideData.collect settings (some openTracingStart) headers).value.complete
        (identified lower spanId priority (headers.get? originHeader)
          (readTags (headers.get? tagsHeader) settings.tagsLimit).value)) := by
  rw [read, Reading.outcome_liftM_bind, Reading.outcome_bind_ok hlower, if_neg hne,
    Reading.outcome_bind_ok hspan, Reading.outcome_bind_ok hpriority, Reading.outcome_liftM_bind]
  rfl

theorem exists_of_outcome_read {settings : Settings} {headers : Headers} {context : SpanContext}
    (h : (read settings headers).outcome = .ok (.full context)) :
    ∃ lower spanId priority, (readTraceId headers).outcome = .ok lower ∧ lower ≠ 0 ∧
      (SideData.collect settings (some openTracingStart) headers).value.completed
        (identified lower spanId priority (headers.get? originHeader)
          (readTags (headers.get? tagsHeader) settings.tagsLimit).value) = context := by
  rw [read, Reading.outcome_liftM_bind, Reading.outcome_bind_eq_ok_iff] at h
  obtain ⟨lower, hlower, h⟩ := h
  split at h
  · exact absurd (Except.ok.inj h) (SideData.withoutIdentity_ne_full _ _ _ context)
  · rename_i hne
    obtain ⟨spanId, hspan, h⟩ := Reading.outcome_bind_eq_ok_iff.mp h
    obtain ⟨priority, hpriority, h⟩ := Reading.outcome_bind_eq_ok_iff.mp h
    refine ⟨lower, spanId, priority, hlower, hne, ?_⟩
    rw [Reading.outcome_liftM_bind] at h
    exact Extracted.full.inj (Except.ok.inj h)

theorem outcome_read_own {settings : Settings} {context : SpanContext}
    (htrace : context.traceId.lower ≠ 0) {headers : Headers}
    (hheaders : ∀ key ∈ keys, headers.get? key = Headers.get? ⟨ownHeaders settings context⟩ key) :
    (read settings headers).outcome =
      .ok ((SideData.collect settings (some openTracingStart) headers).value.complete
        (identified context.traceId.lower context.spanId context.priority context.origin
          (readTags (writtenTags? settings.tagsLimit context) settings.tagsLimit).value)) := by
  obtain ⟨hlower, hspan, hpriority, horigin, htags⟩ := get?_ownHeaders settings context
  rw [← hheaders _ (by decide)] at hlower hspan hpriority horigin htags
  have hread : (readTraceId headers).outcome = .ok context.traceId.lower := by
    rw [readTraceId, hlower]
    exact outcome_readId .traceId context.traceId.lower
  have hparent : (readParentId headers).outcome = .ok context.spanId := by
    rw [readParentId, hspan]
    exact outcome_readId .parentId context.spanId
  rw [outcome_read hread htrace hparent (outcome_readPriority hpriority), horigin, htags]

theorem read_restates {settings : Settings} {context : SpanContext} (h : context.IsPortable)
    {headers : Headers} (hheaders : ∀ key ∈ keys, headers.get? key =
      Headers.get? ⟨ownHeaders settings context⟩ key) :
    ∃ found, (read settings headers).outcome = .ok (.full found) ∧ found.Restates context := by
  rw [outcome_read_own h.trace hheaders]
  apply SideData.complete_restates
  refine .of_priority_eq ?_ rfl rfl rfl
  exact isViewOf_withUpperHex (upperBits?_readTags h settings.tagsLimit)

end TraceHeaders.Format.Datadog
