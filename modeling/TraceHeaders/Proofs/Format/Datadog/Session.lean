import TraceHeaders.Proofs.Chain.Agreement
import TraceHeaders.Proofs.Format.Datadog.RoundTrip

/-!
What the session of a user does to the trace it is written with.  The session joins the list of
propagated tags as it is, so that every comma in it starts an entry of its own.  One entry without an
equals sign costs the whole list and with it the upper half of the trace identifier.  Otherwise the
entries are read as tags of the trace, in place of the tags before them and behind those that follow.
-/

namespace TraceHeaders.Format.Datadog

open Text

variable {σ : Type}

/-- The trace identifier in full and all propagated tags, apart from the session and the upper half of
that identifier. -/
structure KeepsTrace (found context : SpanContext) : Prop where
  traceId : found.traceId.toNat = context.traceId.toNat
  tags : ∀ key, key ≠ sessionTag → key ≠ upperBitsTag →
    found.propagationTags.get? key = context.propagationTags.get? key

/-- The entries that stand behind the first comma of a session. -/
def smuggled (session : String) : Except String (List (String × String)) :=
  (pieces ',' session).tail.mapM splitEntry

/-- Whether a value may stay under its key: only a decision is looked at. -/
def isAcceptable (key value : String) : Bool := key != decisionMakerTag || isDecision value

/-- Entries that nobody notices.  Each of their keys has its last value overruled by a tag that follows,
or that value amounts to what the context holds, and an upper half that they bring is zero. -/
structure LeavesAlone (entries : List (String × String)) (context : SpanContext) : Prop where
  tags : ∀ key value, isPropagated key = true → key ≠ sessionTag → key ≠ upperBitsTag →
    lastOf? key entries = some value →
      (sessionTag < key ∧ (context.propagationTags.get? key).isSome = true) ∨
        (some value).filter (isAcceptable key) = context.propagationTags.get? key
  upperBits : context.traceId.upper = 0 → ∀ value, lastOf? upperBitsTag entries = some value →
    isUpperBits value = true → value = hexPadded 16 0

/-- Sessions that do not disturb the trace.  When the list of tags is lost, there must have been
nothing in it but the session. -/
def IsHarmless (session : String) (context : SpanContext) : Prop :=
  match smuggled session with
  | .ok entries => LeavesAlone entries context
  | .error _ => context.traceId.upper = 0 ∧
      ∀ key, key ≠ sessionTag → key ≠ upperBitsTag → context.propagationTags.get? key = none

def entriesBefore (context : SpanContext) : List (String × String) :=
  context.propagationTags.tags.toList.filter fun entry => entry.1 < sessionTag

def entriesAfter (context : SpanContext) : List (String × String) :=
  (context.propagationTags.tags.toList.filter fun entry => sessionTag < entry.1).filter
      (·.1 != upperBitsTag) ++
    (context.traceId.upper?.map fun upper => (upperBitsTag, hexPadded 16 upper.toNat)).toList

theorem ne_of_lt_sessionTag {key : String} (h : key < sessionTag) : key ≠ upperBitsTag := by
  rintro rfl
  exact absurd h (by decide)

theorem tagEntries_withSession {context : SpanContext} {session : String}
    (hsession : context.tags.get? sessionSpanTag = some session) :
    tagEntries context.withSession =
      entriesBefore context ++ (sessionTag, session) :: entriesAfter context := by
  have hcopied : context.withSession =
      { context with propagationTags := context.propagationTags.insert sessionTag session } := by
    rw [SpanContext.withSession, hsession]
    rfl
  have hbefore : (entriesBefore context).filter (·.1 != upperBitsTag) = entriesBefore context := by
    rw [List.filter_eq_self]
    intro entry hentry
    have hkey : entry.1 < sessionTag := by simpa using (List.mem_filter.mp hentry).2
    simpa using ne_of_lt_sessionTag hkey
  have hne : sessionTag ≠ upperBitsTag := by decide
  rw [hcopied, tagEntries]
  simp only []
  rw [PropagationTags.tags_insert (by decide), TextMap.toList_insert, List.filter_append,
    List.filter_cons_of_pos (by simpa using hne), ← entriesBefore, hbefore, List.append_assoc, entriesAfter]
  rfl

theorem mem_tagEntries {context : SpanContext} {entry : String × String}
    (h : entry ∈ entriesBefore context ∨ entry ∈ entriesAfter context) :
    entry ∈ tagEntries context := by
  rw [tagEntries, List.mem_append, List.mem_filter]
  rcases h with h | h
  · obtain ⟨hentry, hkey⟩ := List.mem_filter.mp h
    have hkey : entry.1 < sessionTag := by simpa using hkey
    exact .inl ⟨hentry, by simpa using ne_of_lt_sessionTag hkey⟩
  · rcases List.mem_append.mp h with h | h
    · obtain ⟨hentry, hkey⟩ := List.mem_filter.mp h
      exact .inl ⟨(List.mem_filter.mp hentry).1, hkey⟩
    · exact .inr h

theorem lastOf?_entriesBefore (context : SpanContext) (key : String) :
    lastOf? key (entriesBefore context) =
      if key < sessionTag then context.propagationTags.get? key else none := by
  have hfilter := lastOf?_filter (fun key => decide (key < sessionTag)) key
    context.propagationTags.tags.toList
  simp only [decide_eq_true_eq] at hfilter
  rw [entriesBefore, hfilter, TextMap.lastOf?_toList]
  rfl

theorem lastOf?_entriesAfter (context : SpanContext) {key : String} (hkey : key ≠ upperBitsTag) :
    lastOf? key (entriesAfter context) =
      if sessionTag < key then context.propagationTags.get? key else none := by
  have hupper : lastOf? key (context.traceId.upper?.map fun upper =>
      (upperBitsTag, hexPadded 16 upper.toNat)).toList = none := by
    apply lastOf?_eq_none
    intro entry hentry
    obtain ⟨upper, _, rfl⟩ := upperEntry_eq hentry
    exact Ne.symm hkey
  have hfilter := lastOf?_filter (fun key => decide (sessionTag < key)) key
    context.propagationTags.tags.toList
  simp only [decide_eq_true_eq] at hfilter
  rw [entriesAfter, lastOf?_append, hupper, Option.none_or, lastOf?_filter (· != upperBitsTag),
    if_pos (by simpa using hkey), hfilter, TextMap.lastOf?_toList]
  rfl

theorem lastOf?_upperBits_entriesAfter (context : SpanContext) :
    lastOf? upperBitsTag (entriesAfter context) =
      context.traceId.upper?.map fun upper => hexPadded 16 upper.toNat := by
  rw [entriesAfter, lastOf?_append, lastOf?_filter (· != upperBitsTag), if_neg (by simp),
    Option.or_none]
  cases context.traceId.upper? with
  | none => rfl
  | some upper => rw [Option.map_some, Option.toList_some, lastOf?_singleton, if_pos rfl]; rfl

theorem mapM_splitEntry_withSession {context : SpanContext} {session : String}
    (h : IsLegible context.propagationTags)
    (hsession : context.tags.get? sessionSpanTag = some session) :
    ∃ first, ((tagEntries context.withSession).flatMap fun entry =>
        pieces ',' (entryText entry)).mapM splitEntry =
      (smuggled session).map fun entries =>
        entriesBefore context ++ ((sessionTag, first) :: entries ++ entriesAfter context) := by
  have hcommas := fun tag htag => And.intro (h.keys tag htag).1 (h.values tag htag)
  have hown (entries : List (String × String))
      (hmem : ∀ entry ∈ entries, entry ∈ tagEntries context) :
      (entries.flatMap fun entry => pieces ',' (entryText entry)).mapM splitEntry = .ok entries := by
    rw [flatMap_pieces_entryText fun entry hentry =>
      not_mem_of_mem_tagEntries hcommas (hmem entry hentry)]
    exact mapM_splitEntry_eq_ok_iff.mpr
      ⟨rfl, fun entry hentry => not_mem_key_of_mem_tagEntries h (hmem entry hentry)⟩
  have hstart : ',' ∉ (sessionTag ++ "=").toList := by decide
  obtain ⟨first, others, hpieces, hentry⟩ := pieces_append_left hstart session
  have hkey : '=' ∉ sessionTag.toList := by decide
  have hsplit : splitEntry (sessionTag ++ "=" ++ first) = .ok (sessionTag, first) :=
    splitEntry_eq_ok_iff.mpr ⟨hkey, rfl⟩
  refine ⟨first, ?_⟩
  rw [tagEntries_withSession hsession, List.flatMap_append, List.flatMap_cons, entryText, hentry,
    List.mapM_append, hown _ fun entry hmem => mem_tagEntries (.inl hmem), List.mapM_append,
    hown _ fun entry hmem => mem_tagEntries (.inr hmem), List.mapM_cons, hsplit, smuggled, hpieces,
    List.tail_cons]
  cases others.mapM splitEntry <;> rfl

variable {context : SpanContext} {entries : List (String × String)} {first : String}

/-- The tags of a list with a session and what it brought. -/
def readWith (context : SpanContext) (first : String) (entries : List (String × String)) :
    PropagationTags :=
  (checkTags (.ofList (entriesBefore context ++
    ((sessionTag, first) :: entries ++ entriesAfter context)))).value.1

theorem get?_readWith {key : String} (hpropagated : isPropagated key = true)
    (hsession : key ≠ sessionTag) (hupper : key ≠ upperBitsTag) :
    (readWith context first entries).get? key =
      (if sessionTag < key then (context.propagationTags.get? key).or (lastOf? key entries)
        else (lastOf? key entries).or (context.propagationTags.get? key)).filter
          (isAcceptable key) := by
  have hlast : lastOf? key (entriesBefore context ++
      ((sessionTag, first) :: entries ++ entriesAfter context)) =
        if sessionTag < key then (context.propagationTags.get? key).or (lastOf? key entries)
        else (lastOf? key entries).or (context.propagationTags.get? key) := by
    rw [List.cons_append, lastOf?_append, lastOf?_cons, lastOf?_append,
      lastOf?_entriesAfter context hupper, lastOf?_entriesBefore, if_neg (Ne.symm hsession),
      Option.or_none]
    split
    · rename_i hlt
      rw [if_neg (String.lt_asymm hlt), Option.or_none]
    · rename_i hlt
      rw [if_pos (TextMap.lt_of_not_le hlt (Ne.symm hsession)), Option.none_or]
  rw [readWith, get?_checkTags, PropagationTags.get?_ofList hpropagated, hlast, if_neg hupper]
  split
  · rename_i hkey
    subst hkey
    rfl
  · rename_i hkey
    have hall : ∀ value, isAcceptable key value = true := fun value => by
      rw [isAcceptable, bne_iff_ne.mpr hkey, Bool.true_or]
    exact (filter_eq_self fun value _ => hall value).symm

theorem upperBits?_readWith :
    (readWith context first entries).upperBits? =
      ((context.traceId.upper?.map fun upper => hexPadded 16 upper.toNat).or
        (lastOf? upperBitsTag entries)).filter isUpperBits := by
  have hne : ¬ sessionTag = upperBitsTag := by decide
  have hlt : ¬ upperBitsTag < sessionTag := by decide
  rw [readWith, upperBits?_checkTags, PropagationTags.upperBits?,
    PropagationTags.get?_ofList (by decide), List.cons_append, lastOf?_append, lastOf?_cons,
    lastOf?_append, lastOf?_upperBits_entriesAfter, lastOf?_entriesBefore, if_neg hne, if_neg hlt,
    Option.or_none, Option.or_none]

theorem isAcceptable_of_isLegible (h : IsLegible context.propagationTags) {key value : String}
    (hvalue : context.propagationTags.get? key = some value) : isAcceptable key value = true := by
  by_cases hkey : key = decisionMakerTag
  · subst hkey
    exact isDecision_iff.mpr (h.decision value hvalue)
  · rw [isAcceptable, bne_iff_ne.mpr hkey, Bool.true_or]

/-- A tag is read as the context holds it when nothing overrules it, or only a tag that is no better. -/
theorem get?_readWith_eq_iff (h : IsLegible context.propagationTags) {key : String}
    (hpropagated : isPropagated key = true) (hsession : key ≠ sessionTag)
    (hupper : key ≠ upperBitsTag) :
    (readWith context first entries).get? key = context.propagationTags.get? key ↔
      ∀ value, lastOf? key entries = some value →
        (sessionTag < key ∧ (context.propagationTags.get? key).isSome = true) ∨
          (some value).filter (isAcceptable key) = context.propagationTags.get? key := by
  have hown : (context.propagationTags.get? key).filter (isAcceptable key) =
      context.propagationTags.get? key :=
    filter_eq_self fun value => isAcceptable_of_isLegible h
  rw [get?_readWith hpropagated hsession hupper]
  cases hlast : lastOf? key entries with
  | none => simp [hown]
  | some value =>
      split
      · rename_i hlt
        cases hget : context.propagationTags.get? key with
        | none => simp
        | some own =>
            rw [hget] at hown
            simp [hlt, hown]
      · rename_i hlt
        simp [hlt]

theorem toNat_withUpperHex_iff {lower : UInt64} {value : String} (h : isUpperBits value = true) :
    (TraceId.withUpperHex lower (some value)).toNat = lower.toNat ↔ value = hexPadded 16 0 := by
  obtain ⟨upper, rfl⟩ := exists_of_isUpperBits h
  rw [withUpperHex_hexPadded, hexPadded_eq_zeros_iff, ← UInt64.toNat_inj, UInt64.toNat_zero]
  simp only [TraceId.toNat, TraceId.upper, TraceId.lower, UInt64.size]
  omega

/-- The identifier is read in full unless an upper half is smuggled into one that has none. -/
theorem toNat_readWith_iff :
    (TraceId.withUpperHex context.traceId.lower (readWith context first entries).upperBits?).toNat =
        context.traceId.toNat ↔
      (context.traceId.upper = 0 → ∀ value, lastOf? upperBitsTag entries = some value →
        isUpperBits value = true → value = hexPadded 16 0) := by
  rw [upperBits?_readWith]
  by_cases hupper : context.traceId.upper = 0
  · have hnone : context.traceId.upper? = none := if_pos hupper
    have hid : context.traceId.toNat = context.traceId.lower.toNat := by
      simp [TraceId.toNat, hupper]
    have hlower : (TraceId.withUpperHex context.traceId.lower none).toNat =
        context.traceId.lower.toNat := by
      simp [TraceId.withUpperHex, TraceId.toNat, TraceId.upper, TraceId.lower]
    rw [hnone, Option.map_none, Option.none_or, hid]
    cases hlast : lastOf? upperBitsTag entries with
    | none => simp [hlower]
    | some value =>
        cases hvalid : isUpperBits value with
        | false => simp [hlower, hvalid, Option.filter_some]
        | true => simp [hupper, hvalid, Option.filter_some, toNat_withUpperHex_iff hvalid]
  · have hsome : context.traceId.upper? = some context.traceId.upper := if_neg hupper
    have hread := withUpperHex_upper? context.traceId
    rw [hsome, Option.map_some] at hread ⊢
    rw [Option.some_or, Option.filter_some, if_pos (isUpperBits_hexPadded _), hread]
    simp [hupper]

variable {found : SpanContext}

theorem keepsTrace_iff_leavesAlone (h : IsLegible context.propagationTags)
    (htrace : found.traceId = .withUpperHex context.traceId.lower
      (readWith context first entries).upperBits?)
    (htags : found.propagationTags = readWith context first entries) :
    KeepsTrace found context ↔ LeavesAlone entries context := by
  constructor
  · rintro ⟨hid, hkept⟩
    refine ⟨?_, ?_⟩
    · intro key value hpropagated hsession hupper
      have hkey := hkept key hsession hupper
      rw [htags, get?_readWith_eq_iff h hpropagated hsession hupper] at hkey
      exact hkey value
    · rw [htrace] at hid
      exact toNat_readWith_iff.mp hid
  · rintro ⟨hkept, hupperBits⟩
    refine ⟨?_, ?_⟩
    · rw [htrace]
      exact toNat_readWith_iff.mpr hupperBits
    · intro key hsession hupper
      by_cases hpropagated : isPropagated key = true
      · rw [htags, get?_readWith_eq_iff h hpropagated hsession hupper]
        exact fun value => hkept key value hpropagated hsession hupper
      · rw [PropagationTags.get?_eq_none hpropagated, PropagationTags.get?_eq_none hpropagated]

theorem keepsTrace_iff_of_lost (htrace : found.traceId = .bits64 context.traceId.lower)
    (htags : found.propagationTags = ∅) :
    KeepsTrace found context ↔ context.traceId.upper = 0 ∧
      ∀ key, key ≠ sessionTag → key ≠ upperBitsTag → context.propagationTags.get? key = none := by
  have hid : found.traceId.toNat = context.traceId.toNat ↔ context.traceId.upper = 0 := by
    rw [htrace, ← UInt64.toNat_inj, UInt64.toNat_zero]
    simp only [TraceId.toNat, TraceId.upper, TraceId.lower, UInt64.size, UInt64.toNat_zero]
    omega
  have hnone (key : String) : found.propagationTags.get? key = none := by
    rw [htags]
    rfl
  constructor
  · rintro ⟨htrace, hkept⟩
    exact ⟨hid.mp htrace, fun key hsession hupper =>
      (hkept key hsession hupper).symm.trans (hnone key)⟩
  · rintro ⟨hupper, hempty⟩
    exact ⟨hid.mpr hupper, fun key hsession hupper =>
      (hnone key).trans (hempty key hsession hupper).symm⟩

theorem isHarmless_of_not_mem {session : String} (h : ',' ∉ session.toList)
    (context : SpanContext) : IsHarmless session context := by
  have hnothing : smuggled session = .ok [] := by
    rw [smuggled, pieces_eq_singleton h]
    rfl
  rw [IsHarmless, hnothing]
  refine ⟨fun key value _ _ _ hlast => ?_, fun _ value hlast => ?_⟩
  · exact absurd hlast.symm (Option.some_ne_none value)
  · exact absurd hlast.symm (Option.some_ne_none value)

theorem headers_injected (settings : Settings) (context : SpanContext) (state : σ) :
    (settings.injected [.datadog] context state).headers =
      ⟨(write settings context.withSession).value⟩ := by
  have hwritten : Style.datadog.written settings context.withSession =
      (write settings context.withSession).value := rfl
  rw [Settings.injected_eq]
  change Headers.mk ([Style.datadog].flatMap _) = _
  rw [List.flatMap_singleton, hwritten]

/-- A trace written with a session keeps its identifier and its other tags exactly when the session is
harmless, as every session without a comma is. -/
theorem read_injected_keeps_iff (settings : Settings) (hnames : settings.baggageHeaders = ∅)
    {context : SpanContext} (htrace : context.traceId.lower ≠ 0)
    (h : IsLegible context.propagationTags) {session : String}
    (hsession : context.tags.get? sessionSpanTag = some session) (hlimit : settings.tagsLimit ≠ 0)
    (hfits : (tagsText context.withSession).utf8ByteSize ≤ settings.tagsLimit) (state : σ) :
    ∃ found, (read settings (settings.injected [.datadog] context state).headers).outcome =
        .ok (.full found) ∧
      (KeepsTrace found context ↔ IsHarmless session context) ∧
      (',' ∉ session.toList → KeepsTrace found context) := by
  have htraceId : context.withSession.traceId = context.traceId := by
    rw [SpanContext.withSession, hsession]
  have hlower : context.withSession.traceId.lower ≠ 0 := by rwa [htraceId]
  have hread := outcome_read_write hnames hlower
  obtain ⟨first, hentries⟩ := mapM_splitEntry_withSession h hsession
  rw [headers_injected]
  suffices hiff : ∃ found, (read settings ⟨(write settings context.withSession).value⟩).outcome =
      .ok (.full found) ∧ (KeepsTrace found context ↔ IsHarmless session context) by
    obtain ⟨found, hfound, hiff⟩ := hiff
    exact ⟨found, hfound, hiff, fun hcomma => hiff.mpr (isHarmless_of_not_mem hcomma context)⟩
  refine ⟨_, hread, ?_⟩
  rw [htraceId, value_readTags_written (.inr ⟨hlimit, hfits⟩), readTexts, hentries, IsHarmless]
  cases smuggled session with
  | error entry => exact keepsTrace_iff_of_lost rfl rfl
  | ok entries => exact keepsTrace_iff_leavesAlone h rfl rfl

/-- A trace of 128 bits with a decision of its own and a session. -/
def sessionContext (session : String) : SpanContext where
  traceId := .bits128 0x1234 0x5678
  spanId := 0x9a
  tags := ⟨[(sessionSpanTag, session)], List.pairwise_singleton _ _⟩
  propagationTags :=
    { tags := ⟨[("_dd.p.dm", "-4"), ("_dd.p.usr", "id=7")], by decide⟩
      tracestate := none
      propagated := by decide }

theorem isLegible_sessionContext (session : String) :
    IsLegible (sessionContext session).propagationTags := by
  have htags : (sessionContext session).propagationTags = (sessionContext "").propagationTags := rfl
  rw [htags]
  refine ⟨by decide, by decide, ?_⟩
  intro value hvalue
  cases hvalue
  exact ⟨['4'], rfl, by decide, List.all_eq_true.mp (by decide)⟩

theorem read_injected_forged :
    (sessionContext "7,_dd.p.dm=-9").traceId.lower ≠ 0 ∧
    IsLegible (sessionContext "7,_dd.p.dm=-9").propagationTags ∧
    (tagsText (sessionContext "7,_dd.p.dm=-9").withSession).utf8ByteSize ≤ 512 ∧
    ∃ found, (read {} (({} : Settings).injected [.datadog]
        (sessionContext "7,_dd.p.dm=-9") ()).headers).outcome = .ok (.full found) ∧
      ¬ KeepsTrace found (sessionContext "7,_dd.p.dm=-9") := by
  have htrace : (sessionContext "7,_dd.p.dm=-9").traceId.lower ≠ 0 := by decide
  have hfits : (tagsText (sessionContext "7,_dd.p.dm=-9").withSession).utf8ByteSize ≤ 512 := by
    decide
  have hsmuggled : smuggled "7,_dd.p.dm=-9" = .ok [("_dd.p.dm", "-9")] := by decide
  have hharmful : ¬ IsHarmless "7,_dd.p.dm=-9" (sessionContext "7,_dd.p.dm=-9") := by
    rw [IsHarmless, hsmuggled]
    intro h
    have hkept := h.tags "_dd.p.dm" "-9" (by decide) (by decide) (by decide) (by decide)
    exact absurd hkept (by decide)
  obtain ⟨found, hfound, hiff, _⟩ := read_injected_keeps_iff {} rfl htrace
    (isLegible_sessionContext _) rfl (by decide) hfits ()
  exact ⟨htrace, isLegible_sessionContext _, hfits, found, hfound, mt hiff.mp hharmful⟩

theorem not_read_injected_keeps :
    ¬ ∀ (settings : Settings) (context : SpanContext) (session : String),
      settings.baggageKeys = ∅ → settings.baggageHeaders = ∅ → context.traceId.lower ≠ 0 →
      IsLegible context.propagationTags → context.tags.get? sessionSpanTag = some session →
      settings.tagsLimit ≠ 0 →
      (tagsText context.withSession).utf8ByteSize ≤ settings.tagsLimit →
      ∃ found, (read settings (settings.injected [.datadog] context ()).headers).outcome =
          .ok (.full found) ∧
        KeepsTrace found context := by
  intro h
  obtain ⟨found, hfound, hid, _⟩ := h {} (sessionContext "7,8") "7,8" rfl rfl (by decide)
    (isLegible_sessionContext "7,8") rfl (by decide) (by decide)
  have hread : (((read {} (({} : Settings).injected [.datadog]
      (sessionContext "7,8") ()).headers).outcome.toOption.bind Extracted.full?).map
        fun found => found.traceId.toNat) = some 0x5678 := by decide
  rw [hfound] at hread
  have hboth : some (sessionContext "7,8").traceId.toNat = some 0x5678 :=
    (congrArg some hid.symm).trans hread
  exact absurd hboth (by decide)

end TraceHeaders.Format.Datadog
