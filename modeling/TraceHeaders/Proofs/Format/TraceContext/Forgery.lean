import TraceHeaders.Proofs.Format.TraceContext.Read

/-!
What propagated tags can do to the decision and the origin of the member they are written into.  The
keys of tags may hold semicolons, and a reader takes what follows one for pairs of their own.  Since the
last pair of a key counts, such a pair replaces the decision or the origin that was written first.
-/

namespace TraceHeaders.Format.TraceContext

open Text

def laterPairs (part : String) : List (String × String) :=
  (pieces ';' part).tail.filterMap (cut? ':')

/-- The pairs of the member that are no parts of their own. -/
def hiddenPairs (context : SpanContext) : List (String × String) :=
  (trimLast (memberParts context)).flatMap laterPairs

theorem laterPairs_eq_nil {part : String} (h : ';' ∉ part.toList) : laterPairs part = [] := by
  rw [laterPairs, pieces_eq_singleton h]
  rfl

theorem lastOf?_partPairs_tag {key : String} (hkey : after? tagStart key = none) (rest : String) :
    lastOf? key (partPairs (tagStart ++ rest)) = lastOf? key (laterPairs (tagStart ++ rest)) := by
  obtain ⟨first, others, _, hpieces⟩ :=
    pieces_append_left (by decide : ';' ∉ tagStart.toList) rest
  have hcut := cut?_append_left (by decide : ':' ∉ tagStart.toList) first
  rw [partPairs, laterPairs, hpieces, List.tail_cons]
  cases hfirst : cut? ':' first with
  | none =>
      rw [hfirst, Option.map_none] at hcut
      rw [List.filterMap_cons_none hcut]
  | some pair =>
      rw [hfirst, Option.map_some] at hcut
      have hne : ¬ tagStart ++ pair.1 = key := by
        rintro rfl
        rw [after?_append] at hkey
        exact absurd hkey (Option.some_ne_none pair.1)
      rw [List.filterMap_cons_some hcut, lastOf?_cons, if_neg hne, Option.or_none]

/-- A part brings in no pair of a key but hidden ones, whether it is trimmed or not. -/
def BringsOnlyHidden (key part : String) : Prop :=
  ∀ text, text = part ∨ text = trim part →
    lastOf? key (partPairs text) = lastOf? key (laterPairs text)

theorem lastOf?_flatMap_trimLast {key : String} {parts : List String}
    (h : ∀ part ∈ parts, BringsOnlyHidden key part) :
    lastOf? key ((trimLast parts).flatMap partPairs) =
      lastOf? key ((trimLast parts).flatMap laterPairs) := by
  have hall : ∀ text ∈ trimLast parts,
      lastOf? key (partPairs text) = lastOf? key (laterPairs text) := by
    intro text htext
    rcases mem_trimLast htext with hmem | ⟨part, hmem, rfl⟩
    · exact h text hmem text (.inl rfl)
    · exact h part hmem (trim part) (.inr rfl)
  generalize trimLast parts = texts at hall ⊢
  induction texts with
  | nil => rfl
  | cons text texts ih =>
      rw [List.flatMap_cons, List.flatMap_cons, lastOf?_append, lastOf?_append,
        hall text List.mem_cons_self, ih fun other hother => hall other (List.mem_cons_of_mem _ hother)]

theorem lastOf?_partPairs_eq {key name value part : String}
    (hpairs : partPairs part = [(name, value)]) (hpart : ';' ∉ part.toList) (hne : name ≠ key) :
    lastOf? key (partPairs part) = lastOf? key (laterPairs part) := by
  rw [hpairs, laterPairs_eq_nil hpart, lastOf?_singleton, if_neg hne, lastOf?_nil]

theorem not_mem_trimEnd {s : String} {c : Char} (h : c ∉ s.toList) : c ∉ (trimEnd s).toList := by
  intro hmem
  rw [trimEnd, String.toList_ofList, List.mem_reverse] at hmem
  exact h (List.mem_reverse.mp ((List.dropWhile_suffix isBlank).subset hmem))

theorem not_mem_originPart {value : String} (h : ';' ∉ value.toList) :
    ';' ∉ ("o:" ++ value).toList := by
  rw [String.toList_append, List.mem_append, not_or]
  exact ⟨by decide, h⟩

theorem trim_originPart (value : String) : trim ("o:" ++ value) = "o:" ++ trimEnd value :=
  trim_append ⟨'o', [':'], by decide, by decide⟩ ⟨':', ['o'], by decide, by decide⟩ value

theorem bringsOnlyHidden_priorityPart {key : String} (hne : "s" ≠ key) (context : SpanContext) :
    BringsOnlyHidden key (priorityPart context) := by
  intro text htext
  rw [trim_priorityPart, or_self] at htext
  rw [htext]
  exact lastOf?_partPairs_eq (partPairs_priority context) (not_mem_priorityPart context) hne

theorem bringsOnlyHidden_originPart {key : String} (hne : "o" ≠ key) (origin : String) :
    BringsOnlyHidden key ("o:" ++ maskValue origin) := by
  have hvalue := not_mem_maskValue origin
  have htrimmed := not_mem_trimEnd hvalue
  rintro text (rfl | rfl)
  · exact lastOf?_partPairs_eq (partPairs_origin hvalue) (not_mem_originPart hvalue) hne
  · rw [trim_originPart]
    exact lastOf?_partPairs_eq (partPairs_origin htrimmed) (not_mem_originPart htrimmed) hne

theorem not_bringsOnlyHidden_originPart (origin : String) :
    ¬ BringsOnlyHidden "o" ("o:" ++ maskValue origin) := by
  intro h
  have hvalue := not_mem_maskValue origin
  have hlast := h _ (.inl rfl)
  rw [partPairs_origin hvalue, laterPairs_eq_nil (not_mem_originPart hvalue), lastOf?_singleton,
    if_pos rfl, lastOf?_nil] at hlast
  exact Option.some_ne_none _ hlast

theorem bringsOnlyHidden_parentPart {key : String} (hne : "p" ≠ key) (spanId : UInt64) :
    BringsOnlyHidden key ("p:" ++ hexPadded 16 spanId.toNat) := by
  intro text htext
  rw [trim_parentPart, or_self] at htext
  rw [htext]
  exact lastOf?_partPairs_eq (partPairs_parent spanId) (not_mem_parentPart spanId) hne

theorem bringsOnlyHidden_tagPart {key : String} (hkey : after? tagStart key = none)
    {tag : String × String} {part : String} (h : tagPart? tag = some part) :
    BringsOnlyHidden key part := by
  obtain ⟨name, _, _, rfl⟩ := tagPart?_eq_some_iff.mp h
  have hstart : StartsSolid tagStart.toList := ⟨'t', ['.'], by decide, by decide⟩
  have hend : EndsSolid tagStart.toList := ⟨'.', ['t'], by decide, by decide⟩
  rw [String.append_assoc, String.append_assoc]
  rintro text (rfl | rfl)
  · exact lastOf?_partPairs_tag hkey _
  · rw [trim_append hstart hend]
    exact lastOf?_partPairs_tag hkey _

def laterParts (context : SpanContext) : List String :=
  ("p:" ++ hexPadded 16 context.spanId.toNat) ::
    context.propagationTags.tags.toList.filterMap tagPart?

theorem otherParts_eq (context : SpanContext) :
    otherParts context =
      (context.origin.map fun origin => "o:" ++ maskValue origin).toList ++ laterParts context := by
  rw [otherParts, laterParts, List.append_assoc, List.singleton_append]

theorem bringsOnlyHidden_of_mem_laterParts {key : String} (hkey : after? tagStart key = none)
    (hne : "p" ≠ key) {context : SpanContext} {part : String} (h : part ∈ laterParts context) :
    BringsOnlyHidden key part := by
  rcases List.mem_cons.mp h with rfl | h
  · exact bringsOnlyHidden_parentPart hne context.spanId
  · obtain ⟨tag, _, htag⟩ := List.mem_filterMap.mp h
    exact bringsOnlyHidden_tagPart hkey htag

theorem bringsOnlyHidden_of_mem_otherParts {key : String} (hkey : after? tagStart key = none)
    (hp : "p" ≠ key) (ho : "o" ≠ key) {context : SpanContext} {part : String}
    (h : part ∈ otherParts context) : BringsOnlyHidden key part := by
  rw [otherParts_eq, List.mem_append] at h
  rcases h with h | h
  · obtain ⟨origin, _, rfl⟩ := Option.map_eq_some_iff.mp (Option.mem_toList.mp h)
    exact bringsOnlyHidden_originPart ho origin
  · exact bringsOnlyHidden_of_mem_laterParts hkey hp h

/-- The decision that is read is the last hidden one, or else the one that was written. -/
theorem lastOf?_priority (context : SpanContext) :
    lastOf? "s" (memberPairs context) = (lastOf? "s" (hiddenPairs context)).or
      (some (context.priority.getD .userKeep).text) := by
  have hothers : ∀ part ∈ keptParts (priorityPart context).utf8ByteSize (otherParts context),
      BringsOnlyHidden "s" part := fun part hpart =>
    bringsOnlyHidden_of_mem_otherParts (by decide) (by decide) (by decide)
      ((keptParts_sublist _ _).subset hpart)
  rw [memberPairs, hiddenPairs, memberParts, trimLast_cons (trim_priorityPart context),
    List.flatMap_cons, List.flatMap_cons, partPairs_priority,
    laterPairs_eq_nil (not_mem_priorityPart context), List.singleton_append, List.nil_append,
    lastOf?_cons, lastOf?_flatMap_trimLast hothers, if_pos rfl]

/-- The origin as it stands in the member, when it fits.  At the end of the member it loses the white
space at its end. -/
def ownOrigin? (context : SpanContext) : Option String :=
  context.origin.bind fun origin =>
    if "o:" ++ maskValue origin ∈ memberParts context then
      if (memberParts context).getLast? = some ("o:" ++ maskValue origin) then
        some (trimEnd (maskValue origin))
      else some (maskValue origin)
    else none

theorem lastOf?_origin_of_bringsOnlyHidden {context : SpanContext}
    (h : ∀ part ∈ memberParts context, BringsOnlyHidden "o" part) :
    lastOf? "o" (memberPairs context) =
      (lastOf? "o" (hiddenPairs context)).or (ownOrigin? context) := by
  have hown : ownOrigin? context = none := by
    rw [ownOrigin?]
    cases context.origin with
    | none => rfl
    | some origin =>
        rw [Option.bind_some]
        exact if_neg fun hmem => not_bringsOnlyHidden_originPart origin (h _ hmem)
  rw [memberPairs, hiddenPairs, lastOf?_flatMap_trimLast h, hown, Option.or_none]

theorem lastOf?_origin_of_memberParts {context : SpanContext} {origin : String}
    {parts : List String} (horigin : context.origin = some origin)
    (hparts : memberParts context = priorityPart context :: ("o:" ++ maskValue origin) :: parts)
    (h : ∀ part ∈ parts, BringsOnlyHidden "o" part) :
    lastOf? "o" (memberPairs context) =
      (lastOf? "o" (hiddenPairs context)).or (ownOrigin? context) := by
  have hpriority : lastOf? "o" (partPairs (priorityPart context)) =
      lastOf? "o" (laterPairs (priorityPart context)) :=
    bringsOnlyHidden_priorityPart (by decide) context _ (.inl rfl)
  have hvalue := not_mem_maskValue origin
  have htrimmed := not_mem_trimEnd hvalue
  have hmem : "o:" ++ maskValue origin ∈ memberParts context := by simp [hparts]
  rw [ownOrigin?, horigin, Option.bind_some, if_pos hmem, memberPairs, hiddenPairs, hparts,
    trimLast_cons (trim_priorityPart context), List.flatMap_cons, List.flatMap_cons,
    lastOf?_append, lastOf?_append, hpriority, laterPairs_eq_nil (not_mem_priorityPart context),
    lastOf?_nil, Option.or_none, Option.or_none]
  cases parts with
  | nil =>
      rw [trimLast, trim_originPart, List.flatMap_singleton, List.flatMap_singleton,
        partPairs_origin htrimmed, laterPairs_eq_nil (not_mem_originPart htrimmed),
        if_pos (by simp), lastOf?_singleton, if_pos rfl, lastOf?_nil, Option.none_or]
  | cons part parts =>
      have hlast : ¬ (priorityPart context :: ("o:" ++ maskValue origin) :: part :: parts).getLast? =
          some ("o:" ++ maskValue origin) := by
        intro hlast
        rw [List.getLast?_cons_cons, List.getLast?_cons_cons] at hlast
        exact not_bringsOnlyHidden_originPart origin (h _ (List.mem_of_getLast? hlast))
      rw [trimLast, List.flatMap_cons, List.flatMap_cons, partPairs_origin hvalue,
        laterPairs_eq_nil (not_mem_originPart hvalue), if_neg hlast, lastOf?_append,
        lastOf?_flatMap_trimLast h, lastOf?_singleton, if_pos rfl, List.nil_append]

theorem lastOf?_origin (context : SpanContext) :
    lastOf? "o" (memberPairs context) =
      (lastOf? "o" (hiddenPairs context)).or (ownOrigin? context) := by
  have hpriority : BringsOnlyHidden "o" (priorityPart context) :=
    bringsOnlyHidden_priorityPart (by decide) context
  have hlater : ∀ size, ∀ part ∈ keptParts size (laterParts context),
      BringsOnlyHidden "o" part := fun size part hpart =>
    bringsOnlyHidden_of_mem_laterParts (by decide) (by decide)
      ((keptParts_sublist size _).subset hpart)
  have hwithout (hkept : keptParts (priorityPart context).utf8ByteSize (otherParts context) =
      keptParts (priorityPart context).utf8ByteSize (laterParts context)) :
      ∀ part ∈ memberParts context, BringsOnlyHidden "o" part := by
    intro part hpart
    rw [memberParts, hkept] at hpart
    rcases List.mem_cons.mp hpart with rfl | hpart
    · exact hpriority
    · exact hlater _ part hpart
  cases horigin : context.origin with
  | none =>
      apply lastOf?_origin_of_bringsOnlyHidden (hwithout _)
      rw [otherParts_eq, horigin]
      rfl
  | some origin =>
      have hothers : otherParts context = ("o:" ++ maskValue origin) :: laterParts context := by
        rw [otherParts_eq, horigin]
        rfl
      -- An origin that does not fit is left out, and no later part can stand in for it.
      by_cases hfits : (priorityPart context).utf8ByteSize +
          ("o:" ++ maskValue origin).utf8ByteSize + 1 < memberLimit
      · have hparts : memberParts context = priorityPart context :: ("o:" ++ maskValue origin) ::
            keptParts ((priorityPart context).utf8ByteSize +
              ("o:" ++ maskValue origin).utf8ByteSize + 1) (laterParts context) := by
          rw [memberParts, hothers, keptParts, if_pos hfits]
        exact lastOf?_origin_of_memberParts horigin hparts (hlater _)
      · apply lastOf?_origin_of_bringsOnlyHidden (hwithout _)
        rw [hothers, keptParts, if_neg hfits]

/-- The decision that was written is read, and no other origin than the one that was written. -/
def Preserves (context : SpanContext) (priority : SamplingPriority) (found : SpanContext) : Prop :=
  found.priority = some priority ∧
    ∀ origin, found.origin = some origin → context.origin.map (mask isValueChar) = some origin

/-- No hidden pair changes the decision or the origin, and the origin loses no blanks at the end of the
member. -/
structure IsUnforged (context : SpanContext) (priority : SamplingPriority) : Prop where
  priority_kept : ∀ value, lastOf? "s" (hiddenPairs context) = some value →
    (resolvePriority priority.isKeep (SamplingPriority.parse? value) ∅).1 = priority
  origin_kept : ∀ value, lastOf? "o" (hiddenPairs context) = some value →
    context.origin.map (mask isValueChar) = some (TraceState.unmask value)
  blanks_kept : lastOf? "o" (hiddenPairs context) = none →
    ∀ origin, context.origin = some origin →
      (memberParts context).getLast? = some ("o:" ++ maskValue origin) →
        origin.toList.getLast? ≠ some ' '

theorem not_mem_mask {allowed : Char → Bool} {s : String} {c : Char} (hc : c ≠ '_')
    (h : c ∉ s.toList) : c ∉ (mask allowed s).toList := by
  intro hmem
  rw [mask, String.toList_ofList, List.mem_map] at hmem
  obtain ⟨d, hd, heq⟩ := hmem
  split at heq
  · exact h (heq ▸ hd)
  · exact hc heq.symm

theorem length_unmask (s : String) : (TraceState.unmask s).toList.length = s.toList.length := by
  rw [TraceState.unmask, swap, String.toList_ofList, List.length_map]

theorem getLast?_maskValue (s : String) :
    (maskValue s).toList.getLast? = some ' ' ↔ s.toList.getLast? = some ' ' := by
  have hblank : ∀ c : Char, (if (if isValueChar c then c else '_') = '=' then '~' else
      if isValueChar c then c else '_') = ' ' ↔ c = ' ' := by
    intro c
    constructor
    · intro h
      split at h <;> split at h
      · exact absurd h (by decide)
      · exact h
      · exact absurd h (by decide)
      · exact absurd h (by decide)
    · rintro rfl
      decide
  rw [maskValue, swap, mask, String.toList_ofList, String.toList_ofList, List.map_map,
    List.getLast?_map]
  cases s.toList.getLast? with
  | none => simp
  | some c =>
      rw [Option.map_some, Option.some_inj, Option.some_inj]
      exact hblank c

theorem unmask_trimEnd_maskValue (origin : String) :
    TraceState.unmask (trimEnd (maskValue origin)) = mask isValueChar origin ↔
      origin.toList.getLast? ≠ some ' ' := by
  rw [← unmask_maskValue, Ne, ← getLast?_maskValue]
  constructor
  · intro hsame hblank
    have hshort := length_trimEnd_lt hblank (by decide)
    have hlength := congrArg (·.toList.length) hsame
    simp only [length_unmask] at hlength
    omega
  · intro hblank
    rw [trimEnd_eq_self]
    intro c hc
    have hprintable := (isValueChar_of_mem_maskValue (List.mem_of_getLast? hc)).1
    refine isBlank_eq_false_of_isPrintableAscii hprintable ?_
    rintro rfl
    exact hblank hc

theorem ownOrigin?_kept_iff (context : SpanContext) :
    (∀ origin, (ownOrigin? context).map TraceState.unmask = some origin →
      context.origin.map (mask isValueChar) = some origin) ↔
    ∀ origin, context.origin = some origin →
      (memberParts context).getLast? = some ("o:" ++ maskValue origin) →
        origin.toList.getLast? ≠ some ' ' := by
  rw [ownOrigin?]
  cases context.origin with
  | none => simp
  | some origin =>
      simp only [Option.bind_some, Option.map_some, Option.some_inj, forall_eq']
      split
      · split
        · rename_i hlast
          rw [← unmask_trimEnd_maskValue]
          simp [hlast, eq_comm]
        · rename_i hlast
          simp [hlast, unmask_maskValue]
      · rename_i hmem
        simp only [Option.map_none, reduceCtorEq, false_implies, implies_true, true_iff]
        intro hlast
        exact absurd (List.mem_of_getLast? hlast) hmem

theorem resolvePriority_fst (sampled : Bool) (stated : Option SamplingPriority)
    (tags others : PropagationTags) :
    (resolvePriority sampled stated tags).1 = (resolvePriority sampled stated others).1 := by
  rw [resolvePriority, resolvePriority]
  split <;> rfl

theorem readPriority_kept_iff {context : SpanContext} {priority : SamplingPriority}
    (hdecided : context.priority = some priority) :
    (resolvePriority priority.isKeep
      ((lastOf? "s" (memberPairs context)).bind SamplingPriority.parse?) ∅).1 = priority ↔
    ∀ value, lastOf? "s" (hiddenPairs context) = some value →
      (resolvePriority priority.isKeep (SamplingPriority.parse? value) ∅).1 = priority := by
  rw [lastOf?_priority, hdecided, Option.getD_some]
  cases lastOf? "s" (hiddenPairs context) with
  | none => simp [resolvePriority_isKeep]
  | some value => simp

theorem readOrigin_kept_iff (context : SpanContext) :
    (∀ origin, (lastOf? "o" (memberPairs context)).map TraceState.unmask = some origin →
      context.origin.map (mask isValueChar) = some origin) ↔
    (∀ value, lastOf? "o" (hiddenPairs context) = some value →
      context.origin.map (mask isValueChar) = some (TraceState.unmask value)) ∧
    (lastOf? "o" (hiddenPairs context) = none →
      ∀ origin, context.origin = some origin →
        (memberParts context).getLast? = some ("o:" ++ maskValue origin) →
          origin.toList.getLast? ≠ some ' ') := by
  rw [lastOf?_origin]
  cases lastOf? "o" (hiddenPairs context) with
  | none =>
      rw [Option.none_or, ownOrigin?_kept_iff]
      simp
  | some value => simp

theorem hiddenPairs_eq_nil {context : SpanContext}
    (h : ∀ tag ∈ context.propagationTags.tags.toList, ';' ∉ tag.1.toList) :
    hiddenPairs context = [] := by
  have hparts : ∀ part ∈ memberParts context, ';' ∉ part.toList := by
    intro part hpart
    rcases List.mem_cons.mp hpart with rfl | hpart
    · exact not_mem_priorityPart context
    · rcases mem_otherParts ((keptParts_sublist _ _).subset hpart) with
        ⟨origin, _, rfl⟩ | rfl | ⟨tag, htag, htagPart⟩
      · exact not_mem_originPart (not_mem_maskValue origin)
      · exact not_mem_parentPart context.spanId
      · obtain ⟨key, hkey, _, rfl⟩ := tagPart?_eq_some_iff.mp htagPart
        have hsemicolon : ';' ∉ key.toList := by
          intro hmem
          apply h tag htag
          rw [hkey, String.toList_append]
          exact List.mem_append_right _ hmem
        simp only [String.toList_append, List.mem_append, not_or]
        exact ⟨⟨⟨by decide, not_mem_mask (by decide) hsemicolon⟩, by decide⟩,
          not_mem_maskValue tag.2⟩
  rw [hiddenPairs, List.flatMap_eq_nil_iff]
  intro text htext
  rcases mem_trimLast htext with hmem | ⟨part, hmem, rfl⟩
  · exact laterPairs_eq_nil (hparts text hmem)
  · exact laterPairs_eq_nil fun hc => hparts part hmem (mem_of_mem_trim hc)

/-- Whether the decision and the origin survive being written and read depends on the hidden pairs and
on where the member ends.  Only the keys of tags can hide a pair. -/
theorem read_write_preserves_iff (settings : Settings) {context : SpanContext}
    {priority : SamplingPriority} (hidentified : Identified context)
    (hdecided : context.priority = some priority) (hstate : HasPrintableState context) :
    ∃ found, (read settings ⟨(write settings context).value⟩).outcome = .ok (.full found) ∧
      (Preserves context priority found ↔ IsUnforged context priority) ∧
      ((∀ tag ∈ context.propagationTags.tags.toList, ';' ∉ tag.1.toList) →
        hiddenPairs context = []) := by
  have hsampled : context.priority.any (·.isKeep) = priority.isKeep := by
    rw [hdecided, Option.any_some]
  have hread := outcome_read_written settings hidentified
    (get?_traceparent_write hidentified settings)
  rw [value_readState, get?_tracestate_write hidentified, Option.bind_some,
    parse?_renderTraceState hstate, Option.map_some, hsampled, TraceState.foldl_add] at hread
  refine ⟨_, hread, ?_, hiddenPairs_eq_nil⟩
  constructor
  · rintro ⟨hpriority, horigin⟩
    obtain ⟨hhidden, hblanks⟩ := (readOrigin_kept_iff context).mp horigin
    refine ⟨?_, hhidden, hblanks⟩
    rw [← readPriority_kept_iff hdecided, ← Option.some_inj, ← hpriority]
    exact congrArg some (resolvePriority_fst _ _ _ _)
  · rintro ⟨hpriority, hhidden, hblanks⟩
    refine ⟨?_, (readOrigin_kept_iff context).mpr ⟨hhidden, hblanks⟩⟩
    rw [← readPriority_kept_iff hdecided] at hpriority
    exact congrArg some ((resolvePriority_fst _ _ _ _).trans hpriority)

def forgedContext : SpanContext where
  traceId := .bits64 1
  spanId := 2
  priority := some .userKeep
  propagationTags :=
    { tags := ⟨[("_dd.p.a;s:1;o:evil", "x")], by decide⟩
      tracestate := none
      propagated := by decide }

theorem hasPrintableState_forgedContext : HasPrintableState forgedContext := by
  intro tracestate h
  exact absurd h (Option.some_ne_none tracestate).symm

theorem hiddenPairs_forgedContext :
    hiddenPairs forgedContext = [("s", "1"), ("o", "evil:x")] := by decide

theorem read_write_forged :
    Identified forgedContext ∧ forgedContext.priority = some .userKeep ∧
    HasPrintableState forgedContext ∧ ¬ IsUnforged forgedContext .userKeep ∧
    ∃ found, (read {} ⟨(write {} forgedContext).value⟩).outcome = .ok (.full found) ∧
      (Preserves forgedContext .userKeep found ↔ IsUnforged forgedContext .userKeep) ∧
      ((∀ tag ∈ forgedContext.propagationTags.tags.toList, ';' ∉ tag.1.toList) →
        hiddenPairs forgedContext = []) := by
  have hidentified : Identified forgedContext := ⟨by decide, by decide⟩
  have hforged : ¬ IsUnforged forgedContext .userKeep := by
    intro h
    have hkept := h.priority_kept "1" (by rw [hiddenPairs_forgedContext]; rfl)
    exact absurd hkept (by decide)
  exact ⟨hidentified, rfl, hasPrintableState_forgedContext, hforged,
    read_write_preserves_iff {} hidentified rfl hasPrintableState_forgedContext⟩

theorem not_read_write_preserves :
    ¬ ∀ (settings : Settings) (context : SpanContext) (priority : SamplingPriority),
      Identified context → context.priority = some priority → HasPrintableState context →
      ∃ found, (read settings ⟨(write settings context).value⟩).outcome = .ok (.full found) ∧
        Preserves context priority found := by
  intro h
  obtain ⟨found, hfound, hpriority, _⟩ :=
    h {} forgedContext .userKeep ⟨by decide, by decide⟩ rfl hasPrintableState_forgedContext
  have hread : (((read {} ⟨(write {} forgedContext).value⟩).outcome.toOption.bind
      Extracted.full?).bind (·.priority)) = some .autoKeep := by decide
  rw [hfound] at hread
  have hboth : some SamplingPriority.userKeep = some SamplingPriority.autoKeep :=
    hpriority.symm.trans hread
  exact absurd hboth (by decide)

end TraceHeaders.Format.TraceContext
