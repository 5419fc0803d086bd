import TraceHeaders.Proofs.Format.Xray

/-!
The identity in the X-Ray header among the texts of the user that share it.  The origin and the keys of
the baggage are written as they are, so they can bring members of their own, and a later root or parent
overrules the one of the context.  The identity comes back just when what they bring states it again.
-/

namespace TraceHeaders.Format.Xray

open Text

variable {α : Type} {settings : Settings} {context : SpanContext}

def membersIn (text : String) : List (String × String) := (pieces ';' text).filterMap (cut? '=')

/-- The members made of the texts of the user: the origin, and the baggage that fits. -/
def userMembers (context : SpanContext) : List (String × String) :=
  (context.origin.map fun origin => (originKey, origin)).toList ++
    (carriedItems context).map baggageMember

/-- What the texts of the user are read as, which need not be the members they were written as. -/
def broughtMembers (context : SpanContext) : List (String × String) :=
  (userMembers context).flatMap fun member => membersIn (memberText member)

/-- The values of all members of a name, in any case. -/
def valuesOf (name : String) (members : List (String × String)) : List String :=
  (members.filter fun member => sameIgnoringCase (trim member.1) name).map fun member =>
    trim member.2

def rootId? (value : String) : Option TraceId := (readRoot value).outcome.toOption

def parentId? (value : String) : Option UInt64 := (readUInt64 16 value).toOption

/-- What stands after some values were read one by one: each of them has to be readable, and the last
one counts. -/
def lastRead? (read? : String → Option α) (start : α) (values : List String) : Option α :=
  values.foldlM (fun _ value => read? value) start

/-- Values that change nothing: all of them can be read, and the last one states what stood before. -/
structure Restated (read? : String → Option α) (stated : α) (values : List String) : Prop where
  readable : ∀ value ∈ values, (read? value).isSome = true
  last : ∀ value, values.getLast? = some value → read? value = some stated

theorem lastRead?_eq_some_iff {read? : String → Option α} {start stated : α}
    {values : List String} : lastRead? read? start values = some stated ↔
      (∀ value ∈ values, (read? value).isSome = true) ∧
        (values.getLast?.elim (some start) read?) = some stated := by
  induction values generalizing start with
  | nil => simp [lastRead?]
  | cons value values ih =>
      have hstep : lastRead? read? start (value :: values) =
          (read? value).bind fun next => lastRead? read? next values := rfl
      have hlast (next : α) (h : read? value = some next) :
          (value :: values).getLast?.elim (some start) read? =
            values.getLast?.elim (some next) read? := by
        rw [List.getLast?_cons]
        cases values.getLast? with
        | none => exact h
        | some last => rfl
      rw [hstep, List.forall_mem_cons]
      cases hvalue : read? value with
      | none => simp
      | some next => simp [ih, hlast next hvalue]

theorem restated_iff {read? : String → Option α} {stated : α} {values : List String} :
    Restated read? stated values ↔ lastRead? read? stated values = some stated := by
  rw [lastRead?_eq_some_iff]
  constructor
  · rintro ⟨hreadable, hlast⟩
    refine ⟨hreadable, ?_⟩
    cases hvalue : values.getLast? with
    | none => rfl
    | some value => exact hlast value hvalue
  · rintro ⟨hreadable, hlast⟩
    refine ⟨hreadable, fun value hvalue => ?_⟩
    rwa [hvalue] at hlast

/-- What is found after one more member, if it can be read. -/
def after? (found : Members) (member : String × String) : Option Members :=
  (readMember found member).outcome.toOption

theorem toOption_foldlM_readMember (members : List (String × String)) (found : Members) :
    (members.foldlM readMember found).outcome.toOption = members.foldlM after? found := by
  induction members generalizing found with
  | nil => rfl
  | cons member members ih =>
      rw [List.foldlM_cons, List.foldlM_cons, Reading.outcome_bind, after?]
      cases (readMember found member).outcome with
      | error fault => rfl
      | ok next => exact ih next

theorem outcome_foldlM_readMember {members : List (String × String)} {found last : Members} :
    (members.foldlM readMember found).outcome = .ok last ↔
      members.foldlM after? found = some last := by
  rw [← toOption_foldlM_readMember]
  cases (members.foldlM readMember found).outcome <;> simp [Except.toOption]

theorem after?_of_root {found : Members} {member : String × String}
    (h : sameIgnoringCase (trim member.1) "Root" = true) :
    after? found member =
      (rootId? (trim member.2)).map fun id => { found with traceId := some id } := by
  simp only [after?, readMember, h, if_true, Reading.outcome_bind, rootId?]
  cases (readRoot (trim member.2)).outcome <;> rfl

theorem after?_of_parent {found : Members} {member : String × String}
    (hroot : sameIgnoringCase (trim member.1) "Root" = false)
    (h : sameIgnoringCase (trim member.1) "Parent" = true) :
    after? found member =
      (parentId? (trim member.2)).map fun id => { found with spanId := id } := by
  simp only [after?, readMember, hroot, h, Bool.false_eq_true, if_false, if_true,
    Reading.outcome_bind, Reading.outcome_orFail, parentId?]
  cases (readUInt64 16 (trim member.2)).toOption <;> rfl

theorem after?_of_other (found : Members) {member : String × String}
    (hroot : sameIgnoringCase (trim member.1) "Root" = false)
    (hparent : sameIgnoringCase (trim member.1) "Parent" = false) :
    ∃ next, after? found member = some next ∧
      next.traceId = found.traceId ∧ next.spanId = found.spanId := by
  simp only [after?, readMember, hroot, hparent, Bool.false_eq_true, if_false]
  split
  · exact ⟨_, rfl, rfl, rfl⟩
  split
  · exact ⟨_, rfl, rfl, rfl⟩
  split
  · exact ⟨_, rfl, rfl, rfl⟩
  split
  · exact ⟨_, rfl, rfl, rfl⟩
  · rw [Reading.outcome_liftM_bind]
    exact ⟨_, rfl, rfl, rfl⟩

theorem valuesOf_cons (name : String) (member : String × String)
    (members : List (String × String)) :
    valuesOf name (member :: members) =
      if sameIgnoringCase (trim member.1) name = true then
        trim member.2 :: valuesOf name members
      else valuesOf name members := by
  rw [valuesOf, List.filter_cons]
  split <;> rfl

theorem lastRead?_cons (read? : String → Option α) (start : α) (value : String)
    (values : List String) : lastRead? read? start (value :: values) =
      (read? value).bind fun next => lastRead? read? next values := rfl

/-- The identity after some members is made of the last root and the last parent, each behind the one
that was there before, and only if all of them can be read. -/
theorem identity_foldlM_after? (members : List (String × String)) {found : Members}
    {start : TraceId} (hstart : found.traceId = some start) (traceId : TraceId) (spanId : UInt64) :
    (∃ last, members.foldlM after? found = some last ∧
      last.traceId = some traceId ∧ last.spanId = spanId) ↔
    lastRead? rootId? start (valuesOf "Root" members) = some traceId ∧
      lastRead? parentId? found.spanId (valuesOf "Parent" members) = some spanId := by
  induction members generalizing found start with
  | nil => simp [valuesOf, lastRead?, hstart]
  | cons member members ih =>
      have hnames : lowerAscii "Root" ≠ lowerAscii "Parent" := by decide
      rw [List.foldlM_cons, valuesOf_cons, valuesOf_cons]
      cases hroot : sameIgnoringCase (trim member.1) "Root" with
      | true =>
          have hparent : sameIgnoringCase (trim member.1) "Parent" = false := by
            rwa [← Bool.not_eq_true, sameIgnoringCase_iff, sameIgnoringCase_iff.mp hroot]
          rw [after?_of_root hroot, hparent, if_pos rfl, if_neg Bool.false_ne_true, lastRead?_cons]
          cases rootId? (trim member.2) with
          | none => simp
          | some id => exact ih rfl
      | false =>
          rw [if_neg Bool.false_ne_true]
          cases hparent : sameIgnoringCase (trim member.1) "Parent" with
          | true =>
              rw [after?_of_parent hroot hparent, if_pos rfl, lastRead?_cons]
              cases parentId? (trim member.2) with
              | none => simp
              | some id => exact ih hstart
          | false =>
              obtain ⟨next, hnext, htrace, hspan⟩ := after?_of_other found hroot hparent
              rw [hnext, if_neg Bool.false_ne_true, ← hspan]
              exact ih (htrace.trans hstart)

theorem membersIn_membersText {members : List (String × String)} (hne : members ≠ []) :
    membersIn (membersText members) =
      members.flatMap fun member => membersIn (memberText member) := by
  rw [membersIn, membersText, pieces_intercalate_eq_flatMap (by decide) (by simpa using hne),
    List.flatMap_map, List.filterMap_flatMap]
  rfl

theorem membersIn_memberText {member : String × String} (hkey : IsMemberKey member.1)
    (hvalue : ';' ∉ member.2.toList) : membersIn (memberText member) = [member] := by
  have hsingle : membersText [member] = memberText member := by
    rw [membersText, List.map_singleton, String.intercalate_singleton]
  rw [← hsingle]
  apply members_intercalate (List.cons_ne_nil _ _)
  intro other hother
  rw [List.mem_singleton.mp hother]
  exact ⟨hkey, hvalue⟩

/-- The members that are written for the identity alone. -/
def ownMembers (context : SpanContext) : List (String × String) :=
  identityMembers { context with origin := none }

theorem flatMap_ownMembers (context : SpanContext) :
    (ownMembers context).flatMap (fun member => membersIn (memberText member)) =
      ownMembers context := by
  have hmembers : ∀ member ∈ ownMembers context, IsMemberKey member.1 ∧ ';' ∉ member.2.toList :=
    isMember_of_mem_identityMembers fun origin horigin =>
      absurd horigin (Option.some_ne_none origin).symm
  have hsame : ∀ member ∈ ownMembers context, membersIn (memberText member) = [member] :=
    fun member hmember =>
      membersIn_memberText (hmembers member hmember).1 (hmembers member hmember).2
  rw [List.flatMap_congr hsame, List.flatMap_singleton']

theorem membersIn_write (hnames : settings.baggageHeaders = ∅)
    (h : context.traceId.isZero = false) :
    ∃ text, (write settings context).value = [⟨header, text⟩] ∧
      membersIn text = ownMembers context ++ broughtMembers context := by
  refine ⟨_, value_write hnames h, ?_⟩
  have hmembers : identityMembers context ++ (carriedItems context).map baggageMember =
      ownMembers context ++ userMembers context := by
    simp only [identityMembers, ownMembers, userMembers, Option.map_none, Option.toList_none,
      List.append_nil, List.append_assoc]
  have hne : ownMembers context ++ userMembers context ≠ [] :=
    List.append_ne_nil_of_left_ne_nil (identityMembers_ne_nil _) _
  rw [hmembers, membersIn_membersText hne, List.flatMap_append, flatMap_ownMembers]
  rfl

/-- The trace and the span come back, whatever else does. -/
def KeepsIdentity (settings : Settings) (context : SpanContext) : Prop :=
  ∃ found, (read settings ⟨(write settings context).value⟩).outcome = .ok (.full found) ∧
    found.traceId = .bits64 context.traceId.lower ∧ found.spanId = context.spanId

structure IsUnforged (context : SpanContext) : Prop where
  root : Restated rootId? (.bits64 context.traceId.lower) (valuesOf "Root" (broughtMembers context))
  parent : Restated parentId? context.spanId (valuesOf "Parent" (broughtMembers context))

/-- What the texts of the user bring forges nothing just when it can be read behind the identity and
leaves it as it is. -/
theorem isUnforged_iff {start : Members}
    (htrace : start.traceId = some (.bits64 context.traceId.lower))
    (hspan : start.spanId = context.spanId) :
    IsUnforged context ↔ ∃ last,
      ((broughtMembers context).foldlM readMember start).outcome = .ok last ∧
      last.traceId = some (.bits64 context.traceId.lower) ∧ last.spanId = context.spanId := by
  simp only [outcome_foldlM_readMember]
  rw [identity_foldlM_after? _ htrace, hspan, ← restated_iff, ← restated_iff]
  constructor
  · rintro ⟨hroot, hparent⟩
    exact ⟨hroot, hparent⟩
  · rintro ⟨hroot, hparent⟩
    exact ⟨hroot, hparent⟩

theorem keepsIdentity_iff (hnames : settings.baggageHeaders = ∅) (h : context.traceId.lower ≠ 0) :
    KeepsIdentity settings context ↔ IsUnforged context := by
  have hlower : (TraceId.bits64 context.traceId.lower).isZero = false := TraceId.isZero_of_lower h
  obtain ⟨text, hwritten, hmembers⟩ := membersIn_write hnames (TraceId.isZero_of_lower h)
  have hget : Headers.get? ⟨[⟨header, text⟩]⟩ header = some text := by
    rw [Headers.get?_cons, Headers.isNamed_mk_self, if_pos rfl]
  have hpieces : (pieces ';' text).filterMap (cut? '=') =
      ownMembers context ++ broughtMembers context := hmembers
  obtain ⟨start, hstart, htrace, hspan⟩ : ∃ start : Members, ((ownMembers context).foldlM readMember
      { baggage := (SideData.collect settings none ⟨[⟨header, text⟩]⟩).value.baggage }).outcome =
        .ok start ∧ start.traceId = some (.bits64 context.traceId.lower) ∧
        start.spanId = context.spanId :=
    ⟨_, outcome_foldlM_identity _ _, rfl, rfl⟩
  rw [isUnforged_iff htrace hspan, KeepsIdentity, hwritten, read, Reading.outcome_liftM_bind, hget]
  simp only [hpieces]
  rw [List.foldlM_append, bind_assoc, Reading.outcome_bind_ok hstart]
  constructor
  · rintro ⟨found, hfound, hfoundTrace, hfoundSpan⟩
    obtain ⟨last, hlast, hrest⟩ := Reading.outcome_bind_eq_ok_iff.mp hfound
    refine ⟨last, hlast, ?_⟩
    split at hrest
    · exact absurd (Except.ok.inj hrest) (SideData.withoutIdentity_ne_full _ _ _ _)
    · rename_i traceId hfilter
      obtain ⟨hlastTrace, _⟩ := Option.filter_eq_some_iff.mp hfilter
      cases hrest
      exact ⟨hlastTrace.trans (congrArg some hfoundTrace), hfoundSpan⟩
  · rintro ⟨last, hlast, hlastTrace, hlastSpan⟩
    rw [Reading.outcome_bind_ok hlast]
    simp only [hlastTrace, Option.filter_some, hlower, Bool.not_false, if_true]
    exact ⟨_, rfl, rfl, hlastSpan⟩

/-- The part of a baggage key that is read as the name of a member. -/
def nameIn (key : String) : String := (cut? '=' key).elim key (·.1)

/-- A baggage key that ends no member and names neither the root nor the parent. -/
structure IsHarmlessKey (key : String) : Prop where
  whole : ';' ∉ key.toList
  other : ∀ name ∈ ["Root", "Parent"], sameIgnoringCase (trim (nameIn key)) name = false

theorem membersIn_baggageMember {item : String × String} (h : ';' ∉ item.1.toList) :
    ∃ value, membersIn (memberText (baggageMember item)) = [(nameIn item.1, value)] := by
  have hwhole : ';' ∉ (memberText (baggageMember item)).toList := by
    simp only [memberText, baggageMember, String.toList_append, List.mem_append, not_or]
    exact ⟨⟨h, by decide⟩, not_mem_encodeForm (by decide) item.2⟩
  rw [membersIn, pieces_eq_singleton hwhole, memberText, baggageMember, nameIn]
  cases hcut : cut? '=' item.1 with
  | none =>
      have hname : '=' ∉ item.1.toList := cut?_eq_none_iff.mp hcut
      refine ⟨encodeForm item.2, ?_⟩
      rw [List.filterMap_cons_some (cut?_append (by decide) hname _), List.filterMap_nil]
      rfl
  | some pair =>
      obtain ⟨hname, hkey⟩ := cut?_eq_some_iff.mp hcut
      have htext : item.1 ++ "=" ++ encodeForm item.2 =
          pair.1 ++ "=" ++ (pair.2 ++ "=" ++ encodeForm item.2) := by
        rw [hkey]
        simp only [String.append_assoc]
        rfl
      refine ⟨pair.2 ++ "=" ++ encodeForm item.2, ?_⟩
      rw [htext, List.filterMap_cons_some (cut?_append (by decide) hname _), List.filterMap_nil]
      rfl

theorem unnamed_of_mem_broughtMembers
    (horigin : ∀ origin, context.origin = some origin → ';' ∉ origin.toList)
    (hbaggage : ∀ item ∈ context.baggage.toList, IsHarmlessKey item.1) :
    ∀ member ∈ broughtMembers context, ∀ name ∈ ["Root", "Parent"],
      sameIgnoringCase (trim member.1) name = false := by
  intro member hmember
  obtain ⟨text, htext, hmember⟩ := List.mem_flatMap.mp hmember
  rcases List.mem_append.mp htext with htext | htext
  · obtain ⟨origin, hvalue, rfl⟩ := Option.map_eq_some_iff.mp (Option.mem_toList.mp htext)
    have hkey : IsMemberKey originKey := ⟨by decide, by decide⟩
    have hnames : ∀ name ∈ ["Root", "Parent"], sameIgnoringCase (trim originKey) name = false := by
      decide
    rw [membersIn_memberText hkey (horigin origin hvalue), List.mem_singleton] at hmember
    rw [hmember]
    exact hnames
  · obtain ⟨item, hitem, rfl⟩ := List.mem_map.mp htext
    have hharmless := hbaggage item ((keptItems_sublist _ _).subset hitem)
    obtain ⟨value, hread⟩ := membersIn_baggageMember hharmless.whole
    rw [hread, List.mem_singleton] at hmember
    rw [hmember]
    exact hharmless.other

theorem restated_valuesOf_of_unnamed {read? : String → Option α} {stated : α} {name : String}
    {members : List (String × String)}
    (h : ∀ member ∈ members, sameIgnoringCase (trim member.1) name = false) :
    Restated read? stated (valuesOf name members) := by
  have hnone : valuesOf name members = [] := by
    rw [valuesOf, List.map_eq_nil_iff, List.filter_eq_nil_iff]
    intro member hmember
    rw [h member hmember]
    exact Bool.false_ne_true
  rw [hnone]
  exact ⟨fun value hvalue => absurd hvalue List.not_mem_nil, fun value hvalue => by cases hvalue⟩

/-- The trace and the span survive just when the texts of the user, read as members, state them again
wherever they state a root or a parent at all.  Texts that end no member and name neither do so. -/
theorem read_write_keeps_identity_iff (settings : Settings) (hnames : settings.baggageHeaders = ∅)
    {context : SpanContext} (h : context.traceId.lower ≠ 0) :
    (KeepsIdentity settings context ↔ IsUnforged context) ∧
      ((∀ origin, context.origin = some origin → ';' ∉ origin.toList) →
        (∀ item ∈ context.baggage.toList, IsHarmlessKey item.1) → IsUnforged context) := by
  refine ⟨keepsIdentity_iff hnames h, fun horigin hbaggage => ?_⟩
  have hunnamed := unnamed_of_mem_broughtMembers horigin hbaggage
  exact ⟨restated_valuesOf_of_unnamed fun member hmember => hunnamed member hmember "Root" (by decide),
    restated_valuesOf_of_unnamed fun member hmember => hunnamed member hmember "Parent" (by decide)⟩

/-- A context whose origin brings a root of its own. -/
def forgedContext : SpanContext where
  traceId := .bits64 1
  spanId := 2
  origin := some "x;Root=1-00000000-000000000000000000000009"

theorem broughtMembers_forgedContext : broughtMembers forgedContext =
    [("_dd.origin", "x"), ("Root", "1-00000000-000000000000000000000009")] := by decide

theorem not_isUnforged_forgedContext : ¬ IsUnforged forgedContext := by
  intro h
  have hlast := h.root.last "1-00000000-000000000000000000000009" (by
    rw [broughtMembers_forgedContext]
    decide)
  exact absurd hlast (by decide)

theorem read_write_keeps_identity_forged :
    forgedContext.traceId.lower ≠ 0 ∧ ¬ IsUnforged forgedContext ∧
    ¬ KeepsIdentity {} forgedContext := by
  have htrace : forgedContext.traceId.lower ≠ 0 := by decide
  have hkeeps := (read_write_keeps_identity_iff {} rfl htrace).1
  exact ⟨htrace, not_isUnforged_forgedContext, mt hkeeps.mp not_isUnforged_forgedContext⟩

theorem not_read_write_keeps_identity :
    ¬ ∀ (settings : Settings) (context : SpanContext), settings.baggageKeys = ∅ →
      settings.baggageHeaders = ∅ → context.traceId.lower ≠ 0 →
      KeepsIdentity settings context := by
  intro h
  obtain ⟨found, hfound, htrace, _⟩ := h {} forgedContext rfl rfl (by decide)
  have hread : (((read {} ⟨(write {} forgedContext).value⟩).outcome.toOption.bind
      Extracted.full?).map (·.traceId)) = some (.bits64 9) := by decide +kernel
  rw [hfound] at hread
  have hboth : some forgedContext.traceId = some (.bits64 9) :=
    (congrArg some htrace.symm).trans hread
  exact absurd hboth (by decide)

end TraceHeaders.Format.Xray
