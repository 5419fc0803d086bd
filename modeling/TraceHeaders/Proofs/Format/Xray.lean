import TraceHeaders.Proofs.Codec
import TraceHeaders.Proofs.Format.Portable
import TraceHeaders.Proofs.Text.Cuts
import TraceHeaders.Proofs.Text.FormCoding
import TraceHeaders.Proofs.Text.Numeral

namespace TraceHeaders.Format.Xray

open Text

def memberText (member : String × String) : String := member.1 ++ "=" ++ member.2

def membersText (members : List (String × String)) : String :=
  ";".intercalate (members.map memberText)

def identityMembers (context : SpanContext) : List (String × String) :=
  [("Root", rootStart ++ hexPadded 16 context.traceId.lower.toNat),
    ("Parent", hexPadded 16 context.spanId.toNat)] ++
  (context.priority.map fun priority =>
    ("Sampled", if priority.isKeep then "1" else "0")).toList ++
  (context.origin.map fun origin => (originKey, origin)).toList

def baggageMember (item : String × String) : String × String := (item.1, encodeForm item.2)

theorem identityMembers_ne_nil (context : SpanContext) : identityMembers context ≠ [] :=
  List.cons_ne_nil _ _

theorem identityText_eq (context : SpanContext) :
    identityText context = membersText (identityMembers context) := by
  have hone : ";Sampled=1" = ";" ++ ("Sampled" ++ ("=" ++ "1")) := by decide
  have hzero : ";Sampled=0" = ";" ++ ("Sampled" ++ ("=" ++ "0")) := by decide
  have hroot : "Root=" = "Root" ++ "=" := by decide
  have hparent : ";Parent=" = ";" ++ ("Parent" ++ "=") := by decide
  have hdecision (priority : SamplingPriority) :
      (if priority.isKeep then ";Sampled=1" else ";Sampled=0") =
        ";" ++ ("Sampled" ++ ("=" ++ if priority.isKeep then "1" else "0")) := by
    cases priority.isKeep with
    | true => exact hone
    | false => exact hzero
  rw [identityText, membersText, identityMembers, hroot, hparent]
  -- Names are made opaque, or else neighbouring literals are joined to new ones.
  clear hone hzero hroot hparent
  generalize "Root" = root, "Parent" = parent, "Sampled" = sampled, "1" = one, "0" = zero
    at hdecision ⊢
  cases context.priority <;> cases context.origin <;>
    simp only [hdecision, memberText, Option.elim_none, Option.elim_some,
      Option.map_none, Option.map_some, Option.toList_none, Option.toList_some, List.append_nil,
      List.cons_append, List.nil_append, List.map_cons, List.map_nil,
      String.intercalate_cons_cons, String.intercalate_singleton, String.append_assoc,
      String.append_empty]

/-- What a baggage item adds to the header, in bytes. -/
def itemSize (item : String × String) : Nat := (";" ++ memberText (baggageMember item)).utf8ByteSize

/-- The items that still fit into a header of some bytes, each one decided on in its turn. -/
def keptItems (size : Nat) : List (String × String) → List (String × String)
  | [] => []
  | item :: items =>
      if headerLimit < size + itemSize item then keptItems size items
      else item :: keptItems (size + itemSize item) items

theorem keptItems_sublist (size : Nat) (items : List (String × String)) :
    (keptItems size items).Sublist items := by
  induction items generalizing size with
  | nil => exact List.Sublist.refl []
  | cons item items ih =>
      rw [keptItems]
      split
      · exact (ih _).cons item
      · exact (ih _).cons_cons item

theorem keptItems_eq_self {size : Nat} {items : List (String × String)}
    (h : size + (items.map itemSize).sum ≤ headerLimit) : keptItems size items = items := by
  induction items generalizing size with
  | nil => rfl
  | cons item items ih =>
      rw [List.map_cons, List.sum_cons] at h
      rw [keptItems, if_neg (by omega), ih (by omega)]

theorem value_addBaggage {settings : Settings} (hnames : settings.baggageHeaders = ∅) (text : String)
    (item : String × String) :
    (addBaggage settings ([], text) item).value =
      ([], if headerLimit < text.utf8ByteSize + itemSize item then text
        else text ++ (";" ++ memberText (baggageMember item))) := by
  have hmember : ";" ++ item.1 ++ "=" ++ encodeForm item.2 =
      ";" ++ memberText (baggageMember item) := by
    simp only [memberText, baggageMember, String.append_assoc]
  rw [addBaggage, Settings.baggageHeader?, hnames, TextMap.get?_empty, itemSize]
  simp only [hmember]
  split <;> rfl

theorem membersText_append {members : List (String × String)} (hne : members ≠ [])
    (member : String × String) :
    membersText (members ++ [member]) = membersText members ++ (";" ++ memberText member) := by
  rw [membersText, List.map_append, String.intercalate_append_of_ne_nil (by simpa using hne)
    (by simp), List.map_singleton, String.intercalate_singleton, membersText, String.append_assoc]

theorem value_foldlM_addBaggage {settings : Settings} (hnames : settings.baggageHeaders = ∅)
    (items : List (String × String)) {members : List (String × String)} (hne : members ≠ []) :
    (items.foldlM (addBaggage settings) ([], membersText members)).value =
      ([], membersText (members ++
        (keptItems (membersText members).utf8ByteSize items).map baggageMember)) := by
  induction items generalizing members with
  | nil => rw [keptItems, List.map_nil, List.append_nil]; rfl
  | cons item items ih =>
      rw [List.foldlM_cons, Logged.value_bind, value_addBaggage hnames, keptItems]
      split
      · exact ih hne
      · have hmore : members ++ [baggageMember item] ≠ [] := List.append_ne_nil_of_right_ne_nil _
          (List.cons_ne_nil _ _)
        have hsize : (membersText (members ++ [baggageMember item])).utf8ByteSize =
            (membersText members).utf8ByteSize + itemSize item := by
          rw [membersText_append hne, String.utf8ByteSize_append, itemSize]
        rw [← membersText_append hne, ih hmore, hsize, List.map_cons, List.append_assoc,
          List.singleton_append]

def IsMemberKey (key : String) : Prop := ';' ∉ key.toList ∧ '=' ∉ key.toList

/-- A baggage key that is read as it stands and is that of no other member. -/
structure IsItemKey (key : String) : Prop where
  nonempty : key ≠ ""
  trimmed : trim key = key
  whole : IsMemberKey key
  unreserved : ∀ name ∈ ["Root", "Parent", "Sampled", "Self"], sameIgnoringCase key name = false
  origin : key ≠ originKey

theorem isItemKey_iff {key : String} : IsItemKey key ↔
    key ≠ "" ∧ trim key = key ∧ (';' ∉ key.toList ∧ '=' ∉ key.toList) ∧
      (∀ name ∈ ["Root", "Parent", "Sampled", "Self"], sameIgnoringCase key name = false) ∧
      key ≠ originKey := by
  constructor
  · rintro ⟨hnonempty, htrimmed, hwhole, hunreserved, horigin⟩
    exact ⟨hnonempty, htrimmed, hwhole, hunreserved, horigin⟩
  · rintro ⟨hnonempty, htrimmed, hwhole, hunreserved, horigin⟩
    exact ⟨hnonempty, htrimmed, hwhole, hunreserved, horigin⟩

instance (key : String) : Decidable (IsItemKey key) := decidable_of_iff _ isItemKey_iff.symm

theorem isItemKey_of_isBaggageKey {key : String} (h : IsBaggageKey key) : IsItemKey key where
  nonempty := h.nonempty
  trimmed := trim_of_all fun c hc => isBlank_of_isBaggageKeyChar (h.allowed c hc)
  whole := by
    constructor
    · intro hmem
      exact absurd (h.allowed ';' hmem) (by decide)
    · intro hmem
      exact absurd (h.allowed '=' hmem) (by decide)
  unreserved := by
    intro name hname
    have hlower : lowerAscii key = key :=
      lowerAscii_eq_self fun c hc => isUpper_of_isBaggageKeyChar (h.allowed c hc)
    have hreserved : ∀ name ∈ ["Root", "Parent", "Sampled", "Self"],
        lowerAscii name ∈ ["root", "parent", "sampled", "self"] := by decide
    rw [← Bool.not_eq_true, sameIgnoringCase_iff, hlower]
    intro hsame
    exact h.unreserved (hsame ▸ hreserved name hname)
  origin := by
    rintro rfl
    exact absurd (h.allowed '.' (by decide)) (by decide)

/-- A context whose origin ends no member early and whose baggage keys are those of no other member. -/
structure IsWritable (context : SpanContext) : Prop where
  trace : context.traceId.lower ≠ 0
  origin : ∀ origin, context.origin = some origin → ';' ∉ origin.toList
  baggage : ∀ item ∈ context.baggage.toList, IsItemKey item.1

theorem isWritable_of_isPortable {context : SpanContext} (h : context.IsPortable) :
    IsWritable context where
  trace := h.trace
  origin := h.origin
  baggage := fun item hitem => isItemKey_of_isBaggageKey (h.baggage item hitem)

theorem isMember_of_mem_identityMembers {context : SpanContext}
    (h : ∀ origin, context.origin = some origin → ';' ∉ origin.toList) :
    ∀ member ∈ identityMembers context,
      IsMemberKey member.1 ∧ ';' ∉ member.2.toList := by
  have hkeys : ∀ key ∈ ["Root", "Parent", "Sampled", originKey],
      ';' ∉ key.toList ∧ '=' ∉ key.toList := by decide
  have hhex (n : Nat) : ';' ∉ (hexPadded 16 n).toList :=
    not_mem_of_isLowerHex (fun _ => isLowerHex_of_mem_hexPadded) (by decide)
  intro member hmember
  rw [identityMembers, List.mem_append, List.mem_append] at hmember
  rcases hmember with (hmember | hmember) | hmember
  · rcases List.mem_cons.mp hmember with rfl | hmember
    · refine ⟨hkeys "Root" (by decide), ?_⟩
      rw [String.toList_append, List.mem_append, not_or]
      exact ⟨by decide, hhex _⟩
    · rw [List.mem_singleton.mp hmember]
      exact ⟨hkeys "Parent" (by decide), hhex _⟩
  · obtain ⟨priority, _, rfl⟩ := Option.map_eq_some_iff.mp (Option.mem_toList.mp hmember)
    refine ⟨hkeys "Sampled" (by decide), ?_⟩
    cases priority.isKeep <;> decide
  · obtain ⟨origin, horigin, rfl⟩ := Option.map_eq_some_iff.mp (Option.mem_toList.mp hmember)
    exact ⟨hkeys originKey (by decide), h origin horigin⟩

theorem members_intercalate {members : List (String × String)} (hne : members ≠ [])
    (h : ∀ member ∈ members, IsMemberKey member.1 ∧ ';' ∉ member.2.toList) :
    (pieces ';' (membersText members)).filterMap (cut? '=') = members := by
  have hpieces : pieces ';' (membersText members) = members.map memberText := by
    apply pieces_intercalate (by decide) (by simpa using hne)
    intro text htext
    obtain ⟨member, hmember, rfl⟩ := List.mem_map.mp htext
    obtain ⟨hkey, hvalue⟩ := h member hmember
    simp only [memberText, String.toList_append, List.mem_append, not_or]
    exact ⟨⟨hkey.1, by decide⟩, hvalue⟩
  rw [hpieces, List.filterMap_map]
  conv_rhs => rw [← List.filterMap_some (l := members)]
  apply List.filterMap_congr
  intro member hmember
  exact cut?_append (by decide) (h member hmember).1.2 member.2

/-- The text of a root, of a time, the digits that do not count and those that do. -/
def rootText (time filler digits : String) : String := "1-" ++ (time ++ "-" ++ (filler ++ digits))

/-- A time is only measured, in bytes, and ends at the first dash. -/
def IsTime (s : String) : Prop := '-' ∉ s.toList ∧ s.utf8ByteSize = 8

/-- Characters of a kind, as many as that. -/
def IsRun (isOfKind : Char → Bool) (length : Nat) (s : String) : Prop :=
  s.toList.length = length ∧ ∀ c ∈ s.toList, isOfKind c = true

/-- The part of a root that is cut: what stands behind the time, once it is known that the time has eight
bytes and that part twenty-four, all of them ASCII. -/
structure IsMeasured (root unique : String) : Prop where
  time : ∃ ids time, after? "1-" root = some ids ∧ cut? '-' ids = some (time, unique) ∧
    time.utf8ByteSize = 8
  size : unique.utf8ByteSize = 24
  ascii : ∀ c ∈ unique.toList, isAscii c = true

theorem measured_iff {time unique : String} :
    ¬ (time.utf8ByteSize ≠ 8 ∨ unique.utf8ByteSize ≠ 24 ∨
        unique.toList.any (!isAscii ·) = true) ↔
      time.utf8ByteSize = 8 ∧ unique.utf8ByteSize = 24 ∧
        ∀ c ∈ unique.toList, isAscii c = true := by
  simp only [not_or, not_not, Bool.not_eq_true, List.any_eq_false, Bool.not_eq_eq_eq_not,
    Bool.not_true, Bool.not_eq_false]

/-- Nothing is cut of a root that is not measured. -/
theorem isMeasured_or_failed (root : String) :
    (∃ unique, IsMeasured root unique) ∨
      (readRoot root).outcome = .error (.failed (unreadable .traceId)) := by
  rw [readRoot]
  cases hafter : after? "1-" root with
  | none => exact .inr rfl
  | some ids =>
      rw [Reading.outcome_bind_ok (Reading.outcome_orFail_some rfl)]
      cases hcut : cut? '-' ids with
      | none => exact .inr rfl
      | some parts =>
          obtain ⟨time, unique⟩ := parts
          rw [Reading.outcome_bind_ok (Reading.outcome_orFail_some rfl)]
          by_cases hsizes : time.utf8ByteSize ≠ 8 ∨ unique.utf8ByteSize ≠ 24 ∨
              unique.toList.any (!isAscii ·) = true
          · simp only [hsizes, if_true]
            exact .inr rfl
          · obtain ⟨htime, hunique, hascii⟩ := measured_iff.mp hsizes
            exact .inl ⟨unique, ⟨ids, time, hafter, hcut, htime⟩, hunique, hascii⟩

theorem outcome_readRoot_of_isMeasured {root unique digits : String} (h : IsMeasured root unique)
    (hdrop : dropBytes? 8 unique = some digits) :
    (readRoot root).outcome = TraceId.bits64 <$>
      (Reading.orFail (unreadable .traceId) (readUInt64 16 digits).toOption).outcome := by
  obtain ⟨⟨ids, time, hafter, hcut, htime⟩, hunique, hascii⟩ := h
  have hsizes := measured_iff.mpr ⟨htime, hunique, hascii⟩
  rw [readRoot, Reading.outcome_bind_ok (Reading.outcome_orFail_some hafter),
    Reading.outcome_bind_ok (Reading.outcome_orFail_some hcut)]
  simp only [hsizes, if_false, hdrop]
  exact Reading.outcome_map _ _

theorem outcome_readRoot_of_measured {time filler digits : String} (htime : IsTime time)
    (hfiller : IsRun isAscii 8 filler) (hdigits : IsRun isAscii 16 digits) :
    (readRoot (rootText time filler digits)).outcome = TraceId.bits64 <$>
      (Reading.orFail (unreadable .traceId) (readUInt64 16 digits).toOption).outcome := by
  have hascii : ∀ c ∈ (filler ++ digits).toList, isAscii c = true := by
    rw [String.toList_append, List.forall_mem_append]
    exact ⟨hfiller.2, hdigits.2⟩
  have hunique : (filler ++ digits).utf8ByteSize = 24 := by
    rw [utf8ByteSize_of_isAscii hascii, String.toList_append, List.length_append, hfiller.1,
      hdigits.1]
  have hdrop : dropBytes? 8 (filler ++ digits) = some digits := by
    refine dropBytes?_eq_some_iff.mpr ⟨filler, rfl, ?_⟩
    rw [utf8ByteSize_of_isAscii hfiller.2, hfiller.1]
  have hcut : cut? '-' (time ++ "-" ++ (filler ++ digits)) = some (time, filler ++ digits) :=
    cut?_append (by decide) htime.1 _
  have hafter : after? "1-" (rootText time filler digits) =
      some (time ++ "-" ++ (filler ++ digits)) := after?_append _ _
  exact outcome_readRoot_of_isMeasured ⟨⟨_, time, hafter, hcut, htime.2⟩, hunique, hascii⟩ hdrop

theorem outcome_readRoot (id : UInt64) :
    (readRoot (rootStart ++ hexPadded 16 id.toNat)).outcome = .ok (.bits64 id) := by
  have hstart : rootStart = "1-" ++ ("00000000" ++ "-" ++ "00000000") := by decide
  have htext : rootStart ++ hexPadded 16 id.toNat =
      rootText "00000000" "00000000" (hexPadded 16 id.toNat) := by
    rw [hstart, rootText]
    simp only [String.append_assoc]
  have htime : IsTime "00000000" := ⟨by decide, by decide⟩
  have hfiller : IsRun isAscii 8 "00000000" := ⟨by decide, List.all_eq_true.mp (by decide)⟩
  have hdigits : IsRun isAscii 16 (hexPadded 16 id.toNat) :=
    ⟨by simp, fun _ => isAscii_of_mem_hexPadded⟩
  rw [htext, outcome_readRoot_of_measured htime hfiller hdigits, readUInt64_hexPadded]
  rfl

theorem trim_root (id : UInt64) :
    trim (rootStart ++ hexPadded 16 id.toNat) = rootStart ++ hexPadded 16 id.toNat := by
  have hstart : StartsSolid rootStart.toList :=
    ⟨'1', "-00000000-00000000".toList, by decide, by decide⟩
  have hne : (hexPadded 16 id.toNat).toList ≠ [] := by
    rw [← List.length_pos_iff, toList_hexPadded, hexWord_length]
    decide
  apply trim_eq_self
  · rw [String.toList_append]
    exact hstart.append _
  · rw [String.toList_append]
    exact (endsSolid_of_all hne fun _ hc =>
      isBlank_eq_false_of_isLowerHex (isLowerHex_of_mem_hexPadded hc)).append_left _

theorem outcome_readMember_root (found : Members) (id : UInt64) :
    (readMember found ("Root", rootStart ++ hexPadded 16 id.toNat)).outcome =
      .ok { found with traceId := some (.bits64 id) } := by
  have htrim : trim "Root" = "Root" := by decide
  have hname : sameIgnoringCase "Root" "Root" = true := by decide
  simp only [readMember, htrim, trim_root, hname, if_true]
  rw [Reading.outcome_bind_ok (outcome_readRoot id)]
  rfl

theorem outcome_readMember_parent (found : Members) (id : UInt64) :
    (readMember found ("Parent", hexPadded 16 id.toNat)).outcome =
      .ok { found with spanId := id } := by
  have htrim : trim "Parent" = "Parent" := by decide
  have hroot : sameIgnoringCase "Parent" "Root" = false := by decide
  have hname : sameIgnoringCase "Parent" "Parent" = true := by decide
  have hread : (readUInt64 16 (hexPadded 16 id.toNat)).toOption = some id := by
    rw [readUInt64_hexPadded]
    rfl
  simp only [readMember, htrim, trim_hexPadded, hroot, hname, Bool.false_eq_true, if_false,
    if_true]
  rw [Reading.outcome_bind_ok (Reading.outcome_orFail_some hread)]
  rfl

theorem outcome_readMember_sampled (found : Members) (keep : Bool) :
    (readMember found ("Sampled", if keep then "1" else "0")).outcome =
      .ok { found with priority := some (.ofKeep keep) } := by
  have htrim : trim "Sampled" = "Sampled" := by decide
  have hvalue : trim (if keep then "1" else "0") = if keep then "1" else "0" := by
    cases keep <;> decide
  have hroot : sameIgnoringCase "Sampled" "Root" = false := by decide
  have hparent : sameIgnoringCase "Sampled" "Parent" = false := by decide
  have hname : sameIgnoringCase "Sampled" "Sampled" = true := by decide
  have hread : parseSampled? (if keep then "1" else "0") = some (.ofKeep keep) := by
    cases keep <;> decide
  simp only [readMember, htrim, hvalue, hroot, hparent, hname, hread, Bool.false_eq_true, if_false,
    if_true]
  rfl

theorem outcome_readMember_origin (found : Members) (origin : String) :
    (readMember found (originKey, origin)).outcome =
      .ok { found with origin := some (trim origin) } := by
  have htrim : trim originKey = originKey := by decide
  have hnames : ∀ name ∈ ["Root", "Parent", "Sampled", "Self"],
      sameIgnoringCase originKey name = false := by decide
  simp only [readMember, htrim, hnames _ (by decide : "Root" ∈ _), hnames _ (by decide : "Parent" ∈ _),
    hnames _ (by decide : "Sampled" ∈ _), hnames _ (by decide : "Self" ∈ _), Bool.false_eq_true,
    if_false, if_true]
  rfl

theorem outcome_readMember_baggage (found : Members) {item : String × String}
    (h : IsItemKey item.1) :
    (readMember found (baggageMember item)).outcome =
      .ok { found with baggage := found.baggage.insert item.1 item.2 } := by
  have hempty : item.1.isEmpty = false := by
    rw [← Bool.not_eq_true, String.isEmpty_iff]
    exact h.nonempty
  have hdecode : (HeaderValue.decode (encodeForm item.2)).value = item.2 :=
    HeaderValue.value_decode (decodeForm_encodeForm item.2)
  simp only [readMember, baggageMember, h.trimmed, trim_encodeForm,
    h.unreserved "Root" (by decide), h.unreserved "Parent" (by decide),
    h.unreserved "Sampled" (by decide), h.unreserved "Self" (by decide), h.origin, hempty,
    Bool.false_eq_true, if_false, Reading.outcome_liftM_bind, hdecode]
  rfl

theorem outcome_foldlM_baggage {items : List (String × String)}
    (h : ∀ item ∈ items, IsItemKey item.1) (found : Members) :
    ((items.map baggageMember).foldlM readMember found).outcome =
      .ok { found with baggage := found.baggage.insertMany items } := by
  induction items generalizing found with
  | nil => rfl
  | cons item items ih =>
      rw [List.map_cons, List.foldlM_cons,
        Reading.outcome_bind_ok (outcome_readMember_baggage found (h item List.mem_cons_self)),
        ih fun other hother => h other (List.mem_cons_of_mem item hother)]
      rfl

theorem outcome_foldlM_sampled {found : Members} (hfound : found.priority = none)
    (priority : Option SamplingPriority) :
    ((priority.map fun priority =>
      ("Sampled", if priority.isKeep then "1" else "0")).toList.foldlM readMember found).outcome =
        .ok { found with priority := priority.map fun priority => .ofKeep priority.isKeep } := by
  cases priority with
  | none =>
      rw [Option.map_none, Option.map_none, ← hfound]
      rfl
  | some priority =>
      rw [Option.map_some, Option.toList_some, List.foldlM_cons,
        Reading.outcome_bind_ok (outcome_readMember_sampled found priority.isKeep)]
      rfl

theorem outcome_foldlM_origin {found : Members} (hfound : found.origin = none)
    (origin : Option String) :
    ((origin.map fun origin => (originKey, origin)).toList.foldlM readMember found).outcome =
      .ok { found with origin := origin.map trim } := by
  cases origin with
  | none =>
      rw [Option.map_none, Option.map_none, ← hfound]
      rfl
  | some origin =>
      rw [Option.map_some, Option.toList_some, List.foldlM_cons,
        Reading.outcome_bind_ok (outcome_readMember_origin found origin)]
      rfl

theorem outcome_foldlM_identity (context : SpanContext) (baggage : TextMap) :
    ((identityMembers context).foldlM readMember { baggage }).outcome =
      .ok { traceId := some (.bits64 context.traceId.lower)
            spanId := context.spanId
            priority := context.priority.map fun priority => .ofKeep priority.isKeep
            origin := context.origin.map trim
            baggage } := by
  rw [identityMembers, List.append_assoc, List.cons_append, List.cons_append, List.nil_append,
    List.foldlM_cons, Reading.outcome_bind_ok (outcome_readMember_root _ _), List.foldlM_cons,
    Reading.outcome_bind_ok (outcome_readMember_parent _ _), List.foldlM_append,
    Reading.outcome_bind_ok (outcome_foldlM_sampled rfl _), outcome_foldlM_origin rfl]

/-- The baggage that is written. -/
def carriedItems (context : SpanContext) : List (String × String) :=
  keptItems (identityText context).utf8ByteSize context.baggage.toList

theorem value_write_items (settings : Settings) {context : SpanContext}
    (h : context.traceId.isZero = false) :
    let written :=
      (context.baggage.toList.foldlM (addBaggage settings) ([], identityText context)).value
    (write settings context).value = written.1 ++ [⟨header, written.2⟩] := by
  rw [write, h]
  rfl

/-- The header of its own that a baggage item is written to, where one is configured. -/
def mappedHeader? (settings : Settings) (item : String × String) : Option Header :=
  (settings.baggageHeader? item.1).map fun name => ⟨name, encodeForm item.2⟩

theorem headers_addBaggage (settings : Settings) (written : List Header × String)
    (item : String × String) :
    (addBaggage settings written item).value.1 =
      written.1 ++ (mappedHeader? settings item).toList := by
  rw [addBaggage, mappedHeader?]
  cases settings.baggageHeader? item.1 with
  | none =>
      rw [Option.map_none, Option.toList_none, List.append_nil]
      dsimp only
      split <;> rfl
  | some name => rfl

theorem headers_foldlM_addBaggage (settings : Settings) (items : List (String × String))
    (written : List Header × String) :
    (items.foldlM (addBaggage settings) written).value.1 =
      written.1 ++ items.filterMap (mappedHeader? settings) := by
  induction items generalizing written with
  | nil => exact (List.append_nil _).symm
  | cons item items ih =>
      rw [List.foldlM_cons, Logged.value_bind, ih, headers_addBaggage, List.append_assoc,
        List.filterMap_cons]
      cases mappedHeader? settings item <;> rfl

theorem value_write {settings : Settings} (hnames : settings.baggageHeaders = ∅)
    {context : SpanContext} (h : context.traceId.isZero = false) :
    (write settings context).value = [⟨header, membersText
      (identityMembers context ++ (carriedItems context).map baggageMember)⟩] := by
  rw [value_write_items settings h, carriedItems, identityText_eq,
    value_foldlM_addBaggage hnames _ (identityMembers_ne_nil context), List.nil_append]

/-- What the header carries of a context, baggage apart. -/
def carried (context : SpanContext) : SpanContext where
  traceId := .bits64 context.traceId.lower
  spanId := context.spanId
  priority := context.priority.map fun priority => .ofKeep priority.isKeep
  origin := context.origin.map trim
  style := some .xray
  isRemote := true

theorem outcome_read_own {settings : Settings} (hnames : settings.baggageHeaders = ∅)
    {context : SpanContext} (h : IsWritable context) {headers : Headers}
    (hheaders : ∀ key ∈ keys, headers.get? key =
      Headers.get? ⟨(write settings context).value⟩ key) :
    let side := (SideData.collect settings none headers).value
    (read settings headers).outcome =
      .ok (SideData.complete { side with baggage := side.baggage.insertMany (carriedItems context) }
        (carried context)) := by
  intro side
  have hzero : context.traceId.isZero = false := TraceId.isZero_of_lower h.trace
  have hheader : headers.get? header = some (membersText
      (identityMembers context ++ (carriedItems context).map baggageMember)) := by
    rw [hheaders _ (by decide), value_write hnames hzero, Headers.get?_cons,
      Headers.isNamed_mk_self, if_pos rfl]
  have hkept : ∀ item ∈ carriedItems context, IsItemKey item.1 := fun item hitem =>
    h.baggage item ((keptItems_sublist _ _).subset hitem)
  have hne : identityMembers context ++ (carriedItems context).map baggageMember ≠ [] :=
    List.append_ne_nil_of_left_ne_nil (identityMembers_ne_nil context) _
  have hmembers : ∀ member ∈ identityMembers context ++ (carriedItems context).map baggageMember,
      IsMemberKey member.1 ∧ ';' ∉ member.2.toList := by
    intro member hmember
    rcases List.mem_append.mp hmember with hmember | hmember
    · exact isMember_of_mem_identityMembers h.origin member hmember
    · obtain ⟨item, hitem, rfl⟩ := List.mem_map.mp hmember
      exact ⟨(hkept item hitem).whole, not_mem_encodeForm (by decide) item.2⟩
  have hlower : (TraceId.bits64 context.traceId.lower).isZero = false :=
    TraceId.isZero_of_lower h.trace
  -- Baggage from other headers is there before any member is read.
  rw [read, Reading.outcome_liftM_bind, hheader]
  simp only [members_intercalate hne hmembers]
  rw [List.foldlM_append, bind_assoc,
    Reading.outcome_bind_ok (outcome_foldlM_identity context side.baggage),
    Reading.outcome_bind_ok (outcome_foldlM_baggage hkept _)]
  simp only [Option.filter_some, hlower, Bool.not_false, if_true]
  rfl

theorem read_restates {settings : Settings} (hnames : settings.baggageHeaders = ∅)
    {context : SpanContext} (h : context.IsPortable) {headers : Headers}
    (hheaders : ∀ key ∈ keys, headers.get? key =
      Headers.get? ⟨(write settings context).value⟩ key) :
    ∃ found, (read settings headers).outcome = .ok (.full found) ∧ found.Restates context := by
  rw [outcome_read_own hnames (isWritable_of_isPortable h) hheaders]
  apply SideData.complete_restates
  refine ⟨.inl rfl, rfl, ?_, rfl⟩
  intro priority hdecided
  exact ⟨.ofKeep priority.isKeep, congrArg (Option.map _) hdecided,
    SamplingPriority.isKeep_ofKeep priority.isKeep⟩

/-- What comes back of a context: the lower half of the trace identifier, the span, the decision, the
origin, and of the baggage what fits, which is all of it when the header has room for all. -/
structure IsCarried (context found : SpanContext) : Prop where
  traceId : found.traceId = .bits64 context.traceId.lower
  spanId : found.spanId = context.spanId
  priority : found.priority = context.priority.map fun priority => .ofKeep priority.isKeep
  origin : found.origin = context.origin
  baggage : ∀ item ∈ found.baggage.toList, item ∈ context.baggage.toList
  whole : (identityText context).utf8ByteSize + (context.baggage.toList.map itemSize).sum ≤
    headerLimit → found.baggage = context.baggage

theorem mem_of_mem_ofList_carriedItems {context : SpanContext} {item : String × String}
    (h : item ∈ (TextMap.ofList (carriedItems context)).toList) : item ∈ context.baggage.toList := by
  rw [← TextMap.get?_eq_some_iff, TextMap.get?_ofList] at h
  exact (keptItems_sublist _ _).subset (mem_of_lastOf? h)

/-- What was written is read back, whatever the values of the baggage are. -/
theorem read_write_carries {settings : Settings} (hkeys : settings.baggageKeys = ∅)
    (hnames : settings.baggageHeaders = ∅) {context : SpanContext} (h : IsWritable context)
    (horigin : ∀ origin, context.origin = some origin → trim origin = origin) :
    ∃ found, (read settings ⟨(write settings context).value⟩).outcome = .ok (.full found) ∧
      IsCarried context found := by
  obtain ⟨found, hread, htrace, hspan, hpriority, htrim, hbaggage⟩ : ∃ found,
      (read settings ⟨(write settings context).value⟩).outcome = .ok (.full found) ∧
        found.traceId = .bits64 context.traceId.lower ∧ found.spanId = context.spanId ∧
        found.priority = (context.priority.map fun priority => .ofKeep priority.isKeep) ∧
        found.origin = context.origin.map trim ∧
        found.baggage = TextMap.ofList (carriedItems context) := by
    refine ⟨_, outcome_read_own hnames h fun _ _ => rfl, rfl, rfl, rfl, rfl, ?_⟩
    rw [SideData.baggage_collect_none hkeys]
    exact TextMap.empty_union (TextMap.ofList (carriedItems context))
  refine ⟨found, hread, htrace, hspan, hpriority, ?_, ?_, ?_⟩
  · rw [htrim]
    cases hvalue : context.origin with
    | none => rfl
    | some origin => exact congrArg some (horigin origin hvalue)
  · rw [hbaggage]
    exact fun item => mem_of_mem_ofList_carriedItems
  · intro hfits
    rw [hbaggage, carriedItems, keptItems_eq_self hfits, TextMap.ofList_toList]

/-- A context with texts that look like separators and keys that look like members. -/
def maskedContext : SpanContext where
  traceId := .bits128 0x1234 0x5678
  spanId := 0x9a
  priority := some ⟨-1⟩
  origin := some "rum = eu"
  baggage := ⟨[("Rooted", "x;Root=1"), ("self-ü", " + ")], by decide⟩

theorem read_write_carries_masked :
    let text := "Root=1-00000000-000000000000000000005678;Parent=000000000000009a;Sampled=0" ++
      ";_dd.origin=rum = eu;Rooted=x%3BRoot%3D1;self-ü=+%2B+"
    (write {} maskedContext).value = [⟨"X-Amzn-Trace-Id", text⟩] ∧
    ∃ found, (read {} ⟨[⟨"X-Amzn-Trace-Id", text⟩]⟩).outcome = .ok (.full found) ∧
      IsCarried maskedContext found ∧ found.baggage = maskedContext.baggage := by
  intro text
  have hwritten : (write {} maskedContext).value = [⟨"X-Amzn-Trace-Id", text⟩] := by
    decide +kernel
  have horigin : ∀ origin, maskedContext.origin = some origin →
      ';' ∉ origin.toList ∧ trim origin = origin := by
    rintro _ ⟨⟩
    decide
  have hwritable : IsWritable maskedContext :=
    ⟨by decide, fun origin h => (horigin origin h).1, by decide⟩
  obtain ⟨found, hfound, hcarried⟩ : ∃ found,
      (read {} ⟨(write {} maskedContext).value⟩).outcome = .ok (.full found) ∧
        IsCarried maskedContext found :=
    read_write_carries rfl rfl hwritable fun origin h => (horigin origin h).2
  rw [hwritten] at hfound
  exact ⟨hwritten, found, hfound, hcarried, hcarried.whole (by decide +kernel)⟩

end TraceHeaders.Format.Xray
