import TraceHeaders.Proofs.Format.Datadog

namespace TraceHeaders.Format.Datadog

open Text

/-- The entries of a list of tags, each one cut at its first equals sign. -/
def listedEntries (header : String) : List (String × String) :=
  (pieces ',' header).filterMap (cut? '=')

def IsUpperBits (value : String) : Prop :=
  value.toList.length = 16 ∧ ∀ c ∈ value.toList, isLowerHex c = true

def IsDecision (value : String) : Prop :=
  ∃ digits, value.toList = '-' :: digits ∧ digits ≠ [] ∧ ∀ c ∈ digits, c.isDigit = true

/-- A list that has entries only and fits a limit that lets something through. -/
structure IsReadable (header : String) (limit : Nat) : Prop where
  enabled : limit ≠ 0
  fits : header.utf8ByteSize ≤ limit
  entries : ∀ piece ∈ pieces ',' header, '=' ∈ piece.toList

/-- What becomes of a list of tags: the tags that are read and whether a defect is reported.  A list that
cannot be read is rejected as a whole.  Of one that can be read, every propagated key keeps its last value
unless this value lacks the form that the key asks for, which is reported. -/
structure Validates (header : String) (limit : Nat)
    (result : PropagationTags × Option TagsDefect) : Prop where
  propagated : ∀ tag ∈ result.1.tags.toList, ∃ name, tag.1 = "_dd.p." ++ name
  last : ∀ tag ∈ result.1.tags.toList, lastOf? tag.1 (listedEntries header) = some tag.2
  rejected : header ≠ "" → ¬ IsReadable header limit →
    result.1.tags = ∅ ∧ result.2.isSome = true
  upperBits : ∀ value, result.1.get? "_dd.p.tid" = some value → IsUpperBits value
  decision : ∀ value, result.1.get? "_dd.p.dm" = some value → IsDecision value
  complete : result.2 = none → ∀ entry ∈ listedEntries header, begins "_dd.p." entry.1 = true →
    result.1.contains entry.1 = true
  dropped : result.2.isSome = true → IsReadable header limit →
    ∀ entry ∈ listedEntries header, begins "_dd.p." entry.1 = true →
      result.1.contains entry.1 = false →
        ∃ value, lastOf? entry.1 (listedEntries header) = some value ∧
          (entry.1 = "_dd.p.tid" ∧ ¬ IsUpperBits value ∨ entry.1 = "_dd.p.dm" ∧ ¬ IsDecision value)

theorem isUpperBits_iff {value : String} : isUpperBits value = true ↔ IsUpperBits value := by
  rw [isUpperBits, Bool.and_eq_true, beq_iff_eq, List.all_eq_true, IsUpperBits]

theorem mapM_splitEntry_of_mem {texts : List String} (h : ∀ text ∈ texts, '=' ∈ text.toList) :
    texts.mapM splitEntry = .ok (texts.filterMap (cut? '=')) := by
  induction texts with
  | nil => rfl
  | cons text texts ih =>
      obtain ⟨htext, htexts⟩ := List.forall_mem_cons.mp h
      cases hcut : cut? '=' text with
      | none => exact absurd htext (cut?_eq_none_iff.mp hcut)
      | some entry =>
          rw [List.filterMap_cons_some hcut, mapM_cons_eq_ok_iff]
          exact ⟨entry, _, by rw [splitEntry, hcut], ih htexts, rfl⟩

theorem mem_of_mapM_splitEntry {texts : List String} {entries : List (String × String)}
    (h : texts.mapM splitEntry = .ok entries) : ∀ text ∈ texts, '=' ∈ text.toList := by
  obtain ⟨rfl, _⟩ := mapM_splitEntry_eq_ok_iff.mp h
  intro text htext
  obtain ⟨entry, _, rfl⟩ := List.mem_map.mp htext
  simp [entryText]

theorem value_readTags_readable {header : String} {limit : Nat} (h : IsReadable header limit) :
    (readTags (some header) limit).value =
      (checkTags (.ofList (listedEntries header))).value := by
  have hempty : ¬ header.isEmpty = true := by
    intro hempty
    have hentries := h.entries
    rw [String.isEmpty_iff.mp hempty] at hentries
    exact absurd (hentries "" (by decide)) List.not_mem_nil
  rw [value_readTags_some hempty h.enabled h.fits, readTexts, mapM_splitEntry_of_mem h.entries]
  rfl

theorem value_readTags_unreadable {header : String} {limit : Nat} (h : ¬ IsReadable header limit) :
    ∃ defect, (readTags (some header) limit).value = (∅, defect) ∧
      (header ≠ "" → defect.isSome = true) := by
  by_cases hempty : header.isEmpty = true
  · refine ⟨none, by rw [readTags, if_pos hempty]; rfl, fun hne => ?_⟩
    exact absurd (String.isEmpty_iff.mp hempty) hne
  · by_cases henabled : limit = 0
    · exact ⟨some .disabled, by rw [readTags, if_neg hempty, if_pos henabled]; rfl, fun _ => rfl⟩
    · by_cases hlong : limit < header.utf8ByteSize
      · refine ⟨some .tooLong, ?_, fun _ => rfl⟩
        rw [readTags, if_neg hempty, if_neg henabled, if_pos hlong]
        rfl
      · have hfits := Nat.not_lt.mp hlong
        refine ⟨some .undecodable, ?_, fun _ => rfl⟩
        rw [value_readTags_some hempty henabled hfits, readTexts]
        cases hentries : (pieces ',' header).mapM splitEntry with
        | error piece => rfl
        | ok entries => exact absurd ⟨henabled, hfits, mem_of_mapM_splitEntry hentries⟩ h

theorem valid_of_dropUnless {valid : String → Bool} {key : String} {tags : PropagationTags}
    (h : (dropUnless valid key tags).2 = none) :
    ∀ value, tags.get? key = some value → valid value = true := by
  intro value hvalue
  simp only [dropUnless, hvalue] at h
  split at h
  · assumption
  · cases h

theorem valid_of_checkTags {tags : PropagationTags} (h : (checkTags tags).value.2 = none) :
    (∀ value, tags.upperBits? = some value → isUpperBits value = true) ∧
      ∀ value, tags.get? decisionMakerTag = some value → isDecision value = true := by
  rw [value_checkTags] at h
  dsimp only at h
  split at h
  · cases h
  · rename_i hdecision
    have hother : (dropUnless isUpperBits upperBitsTag tags).1.get? decisionMakerTag =
        tags.get? decisionMakerTag := by
      rw [get?_dropUnless, if_neg (by decide)]
    refine ⟨valid_of_dropUnless (Option.map_eq_none_iff.mp h), ?_⟩
    rw [← hother]
    exact valid_of_dropUnless (Option.not_isSome_iff_eq_none.mp hdecision)

theorem validates_nothing {header : String} {limit : Nat} {defect : Option TagsDefect}
    (hrejected : header ≠ "" → defect.isSome = true)
    (hcomplete : defect = none → listedEntries header = [])
    (hdropped : ¬ IsReadable header limit) : Validates header limit (∅, defect) where
  propagated := fun tag htag => absurd htag List.not_mem_nil
  last := fun tag htag => absurd htag List.not_mem_nil
  rejected := fun hempty _ => ⟨rfl, hrejected hempty⟩
  upperBits := fun value hvalue => absurd hvalue (Option.some_ne_none value).symm
  decision := fun value hvalue => absurd hvalue (Option.some_ne_none value).symm
  complete := by
    intro hnone entry hentry
    rw [hcomplete hnone] at hentry
    exact absurd hentry List.not_mem_nil
  dropped := fun _ hreadable => absurd hreadable hdropped

theorem validates_checkTags {header : String} {limit : Nat} (h : IsReadable header limit) :
    Validates header limit (checkTags (.ofList (listedEntries header))).value where
  propagated := fun tag htag => begins_iff.mp ((checkTags _).value.1.propagated tag htag)
  last := by
    intro tag htag
    have hget := TextMap.get?_eq_some_iff.mpr htag
    have hcheck := get?_checkTags_ofList ((checkTags _).value.1.propagated tag htag)
      (listedEntries header)
    exact (Option.filter_eq_some_iff.mp (hcheck.symm.trans hget)).1
  rejected := fun _ hunreadable => absurd h hunreadable
  upperBits := by
    intro value hvalue
    have hvalue := (upperBits?_checkTags _).symm.trans hvalue
    exact isUpperBits_iff.mp (Option.filter_eq_some_iff.mp hvalue).2
  decision := by
    intro value hvalue
    have hvalue := (get?_checkTags _ decisionMakerTag).symm.trans hvalue
    rw [if_pos rfl] at hvalue
    exact isDecision_iff.mp (Option.filter_eq_some_iff.mp hvalue).2
  complete := by
    intro hnone entry hentry hkey
    obtain ⟨hupper, hdecision⟩ := valid_of_checkTags hnone
    obtain ⟨value, hlast⟩ := exists_lastOf?_of_mem hentry
    have hget := (PropagationTags.get?_ofList hkey (listedEntries header)).trans hlast
    rw [value_checkTags_of_valid hupper hdecision]
    exact Option.isSome_of_eq_some hget
  dropped := by
    intro _ _ entry hentry hkey hmissing
    obtain ⟨value, hlast⟩ := exists_lastOf?_of_mem hentry
    have hnone := Option.not_isSome_iff_eq_none.mp (Bool.eq_false_iff.mp hmissing)
    have hcheck := (get?_checkTags_ofList hkey (listedEntries header)).symm.trans hnone
    rw [hlast, Option.filter_eq_none_iff] at hcheck
    refine ⟨value, hlast, ?_⟩
    have hmalformed := hcheck value rfl
    split at hmalformed
    · rename_i hdecision
      exact .inr ⟨hdecision, mt isDecision_iff.mpr hmalformed⟩
    · split at hmalformed
      · rename_i hupper
        exact .inl ⟨hupper, mt isUpperBits_iff.mpr hmalformed⟩
      · exact absurd rfl hmalformed

theorem validates_readTags (header : String) (limit : Nat) :
    Validates header limit (readTags (some header) limit).value := by
  by_cases hreadable : IsReadable header limit
  · rw [value_readTags_readable hreadable]
    exact validates_checkTags hreadable
  · obtain ⟨defect, hvalue, hrejected⟩ := value_readTags_unreadable hreadable
    rw [hvalue]
    refine validates_nothing hrejected (fun hnone => ?_) hreadable
    have hempty : header = "" := by
      by_contra hne
      have hsome := hrejected hne
      rw [hnone] at hsome
      exact Bool.false_ne_true hsome
    rw [hempty]
    decide

theorem isUpperBits_of_readTags (header : Option String) (limit : Nat) :
    ∀ value, (readTags header limit).value.1.upperBits? = some value → isUpperBits value = true := by
  intro value hvalue
  cases header with
  | none => exact absurd hvalue (Option.some_ne_none value).symm
  | some header =>
      exact isUpperBits_iff.mpr ((validates_readTags header limit).upperBits value hvalue)

/-- The trace identifier is the number of its header, completed by the tag with its upper half.  It has
128 bits just when there is such a tag. -/
structure CompletesTraceId (headers : Headers) (context : SpanContext) : Prop where
  wide : (∃ upper lower, context.traceId = .bits128 upper lower) ↔
    context.propagationTags.contains "_dd.p.tid" = true
  number : ∃ text lower, headers.get? traceIdHeader = some text ∧
    SpellsDecimal (trim text).toList lower ∧
    context.traceId.toNat =
      ((context.propagationTags.get? "_dd.p.tid").elim 0 fun tid => hexValue tid.toList) * 2 ^ 64 +
        lower

theorem exists_of_readTraceId {headers : Headers} {lower : UInt64}
    (h : (readTraceId headers).outcome = .ok lower) (hne : lower ≠ 0) :
    ∃ text, headers.get? traceIdHeader = some text ∧
      SpellsDecimal (trim text).toList lower.toNat := by
  rw [readTraceId] at h
  cases hget : headers.get? traceIdHeader with
  | none =>
      rw [hget] at h
      exact absurd (Except.ok.inj h).symm hne
  | some text =>
      simp only [hget, readId, Reading.outcome_orFail] at h
      cases hread : readUInt64 10 (trim text) with
      | error e =>
          rw [hread] at h
          cases h
      | ok found =>
          rw [hread] at h
          cases h
          exact ⟨text, rfl, spellsDecimal_of_readUInt64 hread⟩

theorem withUpperHex_of_isUpperBits {tid? : Option String} (lower : UInt64)
    (h : ∀ tid, tid? = some tid → isUpperBits tid = true) :
    ((∃ upper low, TraceId.withUpperHex lower tid? = .bits128 upper low) ↔
      tid?.isSome = true) ∧
    (TraceId.withUpperHex lower tid?).toNat =
      (tid?.elim 0 fun tid => hexValue tid.toList) * 2 ^ 64 + lower.toNat := by
  cases tid? with
  | none =>
      refine ⟨iff_of_false ?_ Bool.false_ne_true, rfl⟩
      rintro ⟨upper, low, hid⟩
      cases hid
  | some tid =>
      obtain ⟨upper, rfl⟩ := exists_of_isUpperBits (h tid rfl)
      rw [withUpperHex_hexPadded, Option.elim_some, toList_hexPadded, hexValue_hexWord_toNat]
      exact ⟨iff_of_true ⟨upper, lower, rfl⟩ rfl, rfl⟩

/-- The tags of every list are validated, and in every context that is read the upper half of the trace
identifier is the one among them. -/
theorem tags_validated :
    (∀ (header : String) (limit : Nat),
      Validates header limit (readTags (some header) limit).value) ∧
    ∀ (settings : Settings) (headers : Headers) (context : SpanContext),
      (read settings headers).outcome = .ok (.full context) → CompletesTraceId headers context := by
  refine ⟨validates_readTags, fun settings headers context h => ?_⟩
  obtain ⟨lower, spanId, priority, hlower, hne, rfl⟩ := exists_of_outcome_read h
  obtain ⟨text, htext, hspells⟩ := exists_of_readTraceId hlower hne
  have hupper := isUpperBits_of_readTags (headers.get? tagsHeader) settings.tagsLimit
  obtain ⟨hwide, hnumber⟩ := withUpperHex_of_isUpperBits lower hupper
  exact ⟨hwide, text, lower.toNat, htext, hspells, hnumber⟩

/-- Headers with an upper half that is stated twice, at first in too few digits. -/
def wideHeaders : Headers where
  toList :=
    [⟨"X-Datadog-Trace-Id", " +042 "⟩,
      ⟨tagsHeader, "_dd.p.tid=ff,key=1,_dd.p.dm=-4,_dd.p.tid=00000000000000ff"⟩]

def wideContext : SpanContext where
  traceId := .bits128 255 42
  mechanism := some ⟨4⟩
  propagationTags :=
    { tags := ⟨[("_dd.p.dm", "-4"), ("_dd.p.tid", "00000000000000ff")], by decide⟩
      tracestate := none
      propagated := by decide }
  style := some .datadog
  isRemote := true

theorem tags_validated_wide :
    (read {} wideHeaders).outcome = .ok (.full wideContext) ∧
    CompletesTraceId wideHeaders wideContext := by
  have hread : (read {} wideHeaders).outcome = .ok (.full wideContext) := by decide +kernel
  exact ⟨hread, tags_validated.2 {} wideHeaders wideContext hread⟩

end TraceHeaders.Format.Datadog
