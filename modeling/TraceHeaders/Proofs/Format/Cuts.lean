import TraceHeaders.Proofs.Format.Haystack
import TraceHeaders.Proofs.Format.Xray

namespace TraceHeaders

open Text

namespace Format

namespace Haystack

variable {value digits : String}

/-- The groups of a UUID are measured in bytes, and the first three of them have sixteen. -/
theorem isCutAfter_of_uuidDigits? (h : uuidDigits? value = some digits) :
    IsCutAfter 16 digits := by
  simp only [uuidDigits?] at h
  split at h
  · rename_i hsizes
    cases h
    have hgroups : (pieces '-' value).map String.utf8ByteSize = [8, 4, 4] ++ [4, 12] := hsizes
    exact isCutAfter_join hgroups
  · cases h

theorem onlyUndecodable_readSecondHalf (h : IsCutAfter 16 digits) (field : Field) :
    (readSecondHalf (.unreadable .haystack (.undecodable field)) digits).OnlyUndecodable
      .haystack := by
  obtain ⟨place, -, hcut⟩ := h
  rw [readSecondHalf, hcut]
  exact Reading.onlyUndecodable_orFail field _

theorem onlyUndecodable_readTraceId (value : String) :
    (readTraceId value).OnlyUndecodable .haystack := by
  simp only [readTraceId]
  cases hdigits : uuidDigits? (trim value) with
  | none => exact Reading.onlyUndecodable_map (Reading.onlyUndecodable_orFail _ _) _
  | some digits =>
      dsimp only
      split
      · have hcut := isCutAfter_of_uuidDigits? hdigits
        exact Reading.onlyUndecodable_map (onlyUndecodable_readSecondHalf hcut _) _
      · exact Reading.onlyUndecodable_map (Reading.onlyUndecodable_orFail _ _) _

theorem onlyUndecodable_readSpanId (value : String) :
    (readSpanId value).OnlyUndecodable .haystack := by
  simp only [readSpanId]
  cases hdigits : uuidDigits? (trim value) with
  | none => exact Reading.onlyUndecodable_orFail _ _
  | some digits => exact onlyUndecodable_readSecondHalf (isCutAfter_of_uuidDigits? hdigits) _

theorem onlyUndecodable_readPriority (headers : Headers) :
    (readPriority headers).OnlyUndecodable .haystack := by
  rw [readPriority]
  split
  · exact Reading.onlyUndecodable_map (Reading.onlyUndecodable_orFail _ _) _
  · exact Reading.onlyUndecodable_of_ok rfl

theorem read_eq (settings : Settings) (headers : Headers) :
    read settings headers = do
      let side ← readSideData settings headers
      let traceId ← (headers.get? traceIdHeader).elim (pure default) readTraceId
      if traceId.isZero then return side.withoutIdentity none .haystack
      let spanId ← (headers.get? spanIdHeader).elim (pure 0) readSpanId
      let priority ← readPriority headers
      return side.complete
        { traceId, spanId, priority, style := some .haystack, isRemote := true } := by
  rw [read]
  cases headers.get? traceIdHeader <;> cases headers.get? spanIdHeader <;>
    simp only [Option.elim_none, Option.elim_some]

theorem onlyUndecodable_read (settings : Settings) (headers : Headers) :
    (read settings headers).OnlyUndecodable .haystack := by
  have helim {α : Type} (default : α) {readValue : String → Reading α}
      (h : ∀ value, (readValue value).OnlyUndecodable .haystack) (value? : Option String) :
      (value?.elim (pure default) readValue).OnlyUndecodable .haystack := by
    cases value? with
    | none => exact Reading.onlyUndecodable_of_ok rfl
    | some value => exact h value
  rw [read_eq]
  refine Reading.onlyUndecodable_liftM_bind ?_
  refine Reading.onlyUndecodable_bind (helim _ onlyUndecodable_readTraceId _) fun traceId => ?_
  split
  · exact Reading.onlyUndecodable_of_ok rfl
  · refine Reading.onlyUndecodable_bind (helim _ onlyUndecodable_readSpanId _) fun spanId => ?_
    refine Reading.onlyUndecodable_bind (onlyUndecodable_readPriority headers) fun priority => ?_
    exact Reading.onlyUndecodable_of_ok rfl

end Haystack

namespace Xray

variable {root unique : String}

/-- Sizes would not do here: without the check for ASCII a character may stand across the cut. -/
theorem isCutAfter_of_isMeasured (h : IsMeasured root unique) : IsCutAfter 8 unique := by
  refine isCutAfter_iff_isValid.mpr (isValid_of_isAscii h.ascii ?_)
  rw [h.size]
  decide

example : "bd862e3éfe1be46a9942727".utf8ByteSize = 24 ∧
    dropBytes? 8 "bd862e3éfe1be46a9942727" = none := by decide

theorem onlyUndecodable_readRoot (root : String) : (readRoot root).OnlyUndecodable .xray := by
  rcases isMeasured_or_failed root with ⟨unique, hmeasured⟩ | hfailed
  · obtain ⟨place, -, hcut⟩ := isCutAfter_of_isMeasured hmeasured
    rw [Reading.OnlyUndecodable, outcome_readRoot_of_isMeasured hmeasured hcut,
      ← Reading.outcome_map]
    exact Reading.onlyUndecodable_map (Reading.onlyUndecodable_orFail .traceId _) _
  · exact Reading.onlyUndecodable_of_failed hfailed

theorem onlyUndecodable_readMember (found : Members) (member : String × String) :
    (readMember found member).OnlyUndecodable .xray := by
  simp only [readMember]
  split
  · exact Reading.onlyUndecodable_bind (onlyUndecodable_readRoot _)
      fun _ => Reading.onlyUndecodable_of_ok rfl
  split
  · exact Reading.onlyUndecodable_bind (Reading.onlyUndecodable_orFail _ _)
      fun _ => Reading.onlyUndecodable_of_ok rfl
  split
  · exact Reading.onlyUndecodable_of_ok rfl
  split
  · exact Reading.onlyUndecodable_of_ok rfl
  split
  · exact Reading.onlyUndecodable_of_ok rfl
  split
  · exact Reading.onlyUndecodable_of_ok rfl
  · exact Reading.onlyUndecodable_of_ok rfl

theorem onlyUndecodable_read (settings : Settings) (headers : Headers) :
    (read settings headers).OnlyUndecodable .xray := by
  rw [read]
  refine Reading.onlyUndecodable_liftM_bind ?_
  split
  · exact Reading.onlyUndecodable_of_ok rfl
  · refine Reading.onlyUndecodable_bind
      (Reading.onlyUndecodable_foldlM onlyUndecodable_readMember _ _) fun found => ?_
    dsimp only
    split
    · exact Reading.onlyUndecodable_of_ok rfl
    · exact Reading.onlyUndecodable_of_ok rfl

end Xray

variable {σ : Type}

/-- Identifiers are cut between characters, those that are read as well as those that are written.  So
neither of the two codecs ever crashes, whatever the headers hold. -/
theorem identifiers_cut_between_characters (settings : Settings) :
    (∀ value digits, Haystack.uuidDigits? value = some digits → IsCutAfter 16 digits) ∧
    (∀ root, (∃ unique, Xray.IsMeasured root unique) ∨
      (Xray.readRoot root).outcome = .error (.failed (Xray.unreadable .traceId))) ∧
    (∀ root unique, Xray.IsMeasured root unique → IsCutAfter 8 unique) ∧
    (∀ id : UInt64,
      let digits := hexPadded 16 id.toNat
      digits.utf8ByteSize = 16 ∧ (∀ c ∈ digits.toList, isAscii c = true) ∧
      ∃ place : digits.Pos, place.offset.byteIdx = 4 ∧
        Haystack.uuid id = Haystack.signature ++ "-" ++ (digits.sliceTo place).copy ++ "-" ++
          (digits.sliceFrom place).copy) ∧
    ∀ style ∈ [Style.haystack, .xray],
      (∃ extractor : Extractor σ, style.extractor? settings = some extractor ∧
        ∀ headers state, Fault.IsPassedOn .extract extractor.style
          ((extractor.extract headers).run state).value.1) ∧
      ∃ injector : Injector σ, style.injector? settings = some injector ∧
        ∀ context state, Fault.IsPassedOn .inject injector.style
          ((injector.inject context).run state).value.1.outcome := by
  refine ⟨fun value digits => Haystack.isCutAfter_of_uuidDigits?, Xray.isMeasured_or_failed,
    fun root unique => Xray.isCutAfter_of_isMeasured, fun id => ?_, fun style hstyle => ?_⟩
  · exact ⟨utf8ByteSize_hexPadded 16 id.toNat, fun _ => isAscii_of_mem_hexPadded, _, rfl, rfl⟩
  · have hinject (context : SpanContext) (write : SpanContext → Logged (List Header)) (state : σ) :
        Fault.IsPassedOn .inject style
          (((Injector.ofWriting style style.keys write).inject context).run state).value.1.outcome :=
      Fault.isPassedOn_ok .inject style ()
    simp only [List.mem_cons, List.not_mem_nil, or_false] at hstyle
    rcases hstyle with rfl | rfl
    · exact ⟨⟨_, rfl, fun headers _ => (Haystack.onlyUndecodable_read settings headers).isPassedOn⟩,
        _, rfl, fun context state => hinject context _ state⟩
    · exact ⟨⟨_, rfl, fun headers _ => (Xray.onlyUndecodable_read settings headers).isPassedOn⟩,
        _, rfl, fun context state => hinject context _ state⟩

/-- Characters of more than one byte stand in the groups of the UUID, just behind its cut among them, and
in the time of the root. -/
theorem identifiers_cut_between_characters_multibyte :
    let value := "44617461-646f-67é-日a-000000003039"
    let digits := "44617461646f67é日a000000003039"
    let root := "1-éé日a-bd862e3fe1be46a994272793"
    let unique := "bd862e3fe1be46a994272793"
    Haystack.uuidDigits? value = some digits ∧ IsCutAfter 16 digits ∧
    dropBytes? 16 digits = some "日a000000003039" ∧ ¬ IsCutAfter 17 digits ∧
    Xray.IsMeasured root unique ∧ IsCutAfter 8 unique ∧
    ∃ extractor : Extractor Unit, Style.haystack.extractor? {} = some extractor ∧
      Fault.IsPassedOn .extract extractor.style
        ((extractor.extract ⟨[⟨Haystack.traceIdHeader, value⟩]⟩).run ()).value.1 := by
  intro value digits root unique
  have hdigits : Haystack.uuidDigits? value = some digits := by decide
  have hmeasured : Xray.IsMeasured root unique :=
    ⟨⟨"éé日a-bd862e3fe1be46a994272793", "éé日a", by decide, by decide, by decide⟩, by decide,
      List.all_eq_true.mp (by decide)⟩
  have hstraddled : ¬ IsCutAfter 17 digits :=
    fun hcut => dropBytes?_eq_none_iff.mp (by decide) (isCutAfter_iff_isValid.mp hcut)
  obtain ⟨huuid, -, hroot, -, hcodecs⟩ := identifiers_cut_between_characters (σ := Unit) {}
  obtain ⟨⟨extractor, hextractor, hpassed⟩, -⟩ := hcodecs .haystack (by decide)
  exact ⟨hdigits, huuid value digits hdigits, by decide, hstraddled, hmeasured,
    hroot root unique hmeasured, extractor, hextractor, hpassed _ ()⟩

end Format

end TraceHeaders
