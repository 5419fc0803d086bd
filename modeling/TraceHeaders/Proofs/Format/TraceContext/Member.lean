import TraceHeaders.Format.TraceContext.TraceState
import TraceHeaders.Proofs.Text.Numeral
import TraceHeaders.Proofs.TextMap

namespace TraceHeaders.Format.TraceContext

open Text

theorem mask_eq_self {allowed : Char → Bool} {s : String}
    (h : ∀ c ∈ s.toList, allowed c = true) : mask allowed s = s := by
  have hmap : (s.toList.map fun c => if allowed c then c else '_') = s.toList := by
    conv_rhs => rw [← List.map_id s.toList]
    apply List.map_congr_left
    intro c hc
    rw [if_pos (h c hc), id]
  rw [mask, hmap, String.ofList_toList]

theorem allowed_of_mem_mask {allowed : Char → Bool} {s : String} {c : Char}
    (hunderscore : allowed '_' = true) (hc : c ∈ (mask allowed s).toList) : allowed c = true := by
  rw [mask, String.toList_ofList, List.mem_map] at hc
  obtain ⟨d, _, rfl⟩ := hc
  split
  · assumption
  · exact hunderscore

theorem unmask_maskValue (s : String) : TraceState.unmask (maskValue s) = mask isValueChar s := by
  have hvalue : ∀ c ∈ (mask isValueChar s).toList, isValueChar c = true := fun c =>
    allowed_of_mem_mask (by decide)
  have hmap : (((mask isValueChar s).toList.map fun c => if c = '=' then '~' else c).map
      fun c => if c = '~' then '=' else c) = (mask isValueChar s).toList := by
    rw [List.map_map]
    conv_rhs => rw [← List.map_id (mask isValueChar s).toList]
    apply List.map_congr_left
    intro c hc
    have htilde : c ≠ '~' := by
      rintro rfl
      exact absurd (hvalue '~' hc) (by decide)
    by_cases hequals : c = '='
    · simp [hequals]
    · simp [hequals, htilde]
  rw [TraceState.unmask, maskValue, swap, swap, String.toList_ofList, hmap, String.ofList_toList]

theorem isValueChar_of_mem_maskValue {s : String} {c : Char} (h : c ∈ (maskValue s).toList) :
    isPrintableAscii c = true ∧ c ≠ ',' ∧ c ≠ ';' := by
  rw [maskValue, swap, String.toList_ofList, List.mem_map] at h
  obtain ⟨d, hd, rfl⟩ := h
  have hallowed : isValueChar d = true := allowed_of_mem_mask (by decide) hd
  simp only [isValueChar, Bool.and_eq_true, bne_iff_ne] at hallowed
  split
  · decide
  · exact ⟨hallowed.1.1.1, hallowed.1.1.2, hallowed.1.2⟩

theorem isTagKeyChar_of_mem_mask {s : String} {c : Char} (h : c ∈ (mask isTagKeyChar s).toList) :
    isPrintableAscii c = true ∧ c ≠ ' ' ∧ c ≠ ',' := by
  have hallowed : isTagKeyChar c = true := allowed_of_mem_mask (by decide) h
  simp only [isTagKeyChar, Bool.and_eq_true, bne_iff_ne] at hallowed
  exact ⟨hallowed.1.1.1, hallowed.1.1.2, hallowed.1.2⟩

theorem equals_not_mem_maskValue (s : String) : '=' ∉ (maskValue s).toList := by
  rw [maskValue, swap, String.toList_ofList, List.mem_map]
  rintro ⟨c, _, hc⟩
  split at hc
  · exact absurd hc (by decide)
  · contradiction

/-- The parts that still fit into a member of some bytes, each one decided on in its turn. -/
def keptParts (size : Nat) : List String → List String
  | [] => []
  | part :: parts =>
      if size + part.utf8ByteSize + 1 < memberLimit then
        part :: keptParts (size + part.utf8ByteSize + 1) parts
      else keptParts size parts

theorem keptParts_sublist (size : Nat) (parts : List String) :
    (keptParts size parts).Sublist parts := by
  induction parts generalizing size with
  | nil => exact List.Sublist.refl []
  | cons part parts ih =>
      rw [keptParts]
      split
      · exact (ih _).cons_cons part
      · exact (ih _).cons part

/-- Two parts with a semicolon between them are one part more than a part of their own. -/
theorem intercalate_glue (content part : String) (parts : List String) :
    ";".intercalate ((content ++ ";" ++ part) :: parts) =
      ";".intercalate (content :: part :: parts) := by
  rw [String.intercalate_cons_append, String.intercalate_cons_cons]

theorem utf8ByteSize_glue (content part : String) :
    (content ++ ";" ++ part).utf8ByteSize = content.utf8ByteSize + part.utf8ByteSize + 1 := by
  have hsemicolon : ";".utf8ByteSize = 1 := by decide
  rw [String.utf8ByteSize_append, String.utf8ByteSize_append, hsemicolon]
  omega

theorem utf8ByteSize_le_intercalate (content : String) (parts : List String) :
    content.utf8ByteSize ≤ (";".intercalate (content :: parts)).utf8ByteSize := by
  cases parts with
  | nil => simp
  | cons part parts =>
      rw [String.intercalate_cons_cons, String.utf8ByteSize_append, String.utf8ByteSize_append]
      omega

theorem foldl_addPart (parts : List String) (content : String) :
    parts.foldl addPart content =
      ";".intercalate (content :: keptParts content.utf8ByteSize parts) := by
  induction parts generalizing content with
  | nil => simp [keptParts]
  | cons part parts ih =>
      rw [List.foldl_cons, ih, addPart, keptParts]
      split
      · rw [utf8ByteSize_glue, intercalate_glue]
      · rfl

theorem keptParts_eq_self (parts : List String) (content : String)
    (h : (";".intercalate (content :: parts)).utf8ByteSize < memberLimit) :
    keptParts content.utf8ByteSize parts = parts := by
  induction parts generalizing content with
  | nil => rfl
  | cons part parts ih =>
      rw [← intercalate_glue] at h
      have hle := utf8ByteSize_le_intercalate (content ++ ";" ++ part) parts
      have hsize := utf8ByteSize_glue content part
      rw [keptParts, if_pos (by omega), ← hsize, ih (content ++ ";" ++ part) h]

def memberParts (context : SpanContext) : List String :=
  priorityPart context :: keptParts (priorityPart context).utf8ByteSize (otherParts context)

theorem memberContent_eq (context : SpanContext) :
    memberContent context = ";".intercalate (memberParts context) :=
  foldl_addPart (otherParts context) (priorityPart context)

theorem tagPart?_eq_some_iff {tag : String × String} {part : String} :
    tagPart? tag = some part ↔ ∃ key, tag.1 = tagNamespace ++ key ∧ key ≠ "tid" ∧
      part = tagStart ++ mask isTagKeyChar key ++ ":" ++ maskValue tag.2 := by
  constructor
  · intro h
    rw [tagPart?] at h
    split at h
    · exact absurd h (by simp)
    · rename_i key hkey
      split at h
      · exact absurd h (by simp)
      · rename_i hne
        exact ⟨key, after?_eq_some_iff.mp hkey, hne, (Option.some.inj h).symm⟩
  · rintro ⟨key, hkey, hne, rfl⟩
    rw [tagPart?, after?_eq_some_iff.mpr hkey]
    exact if_neg hne

theorem mem_otherParts {context : SpanContext} {part : String} (h : part ∈ otherParts context) :
    (∃ origin, context.origin = some origin ∧ part = "o:" ++ maskValue origin) ∨
      part = "p:" ++ hexPadded 16 context.spanId.toNat ∨
      ∃ tag ∈ context.propagationTags.tags.toList, tagPart? tag = some part := by
  rw [otherParts, List.mem_append, List.mem_append] at h
  rcases h with (h | h) | h
  · obtain ⟨origin, horigin, rfl⟩ := Option.map_eq_some_iff.mp (Option.mem_toList.mp h)
    exact .inl ⟨origin, horigin, rfl⟩
  · exact .inr (.inl (List.mem_singleton.mp h))
  · exact .inr (.inr (List.mem_filterMap.mp h))

structure IsPart (part : String) : Prop where
  printable : ∀ c ∈ part.toList, isPrintableAscii c = true
  no_comma : ',' ∉ part.toList
  solid : StartsSolid part.toList

theorem IsPart.append {start rest : String} (hstart : IsPart start)
    (h : ∀ c ∈ rest.toList, isPrintableAscii c = true ∧ c ≠ ',') : IsPart (start ++ rest) where
  printable := by
    intro c hc
    rw [String.toList_append] at hc
    exact (List.mem_append.mp hc).elim (hstart.printable c) fun hc => (h c hc).1
  no_comma := by
    intro hc
    rw [String.toList_append] at hc
    exact (List.mem_append.mp hc).elim hstart.no_comma fun hc => (h ',' hc).2 rfl
  solid := by
    rw [String.toList_append]
    exact hstart.solid.append rest.toList

theorem isPart_start {start : String}
    (hall : (start.toList.all fun c => isPrintableAscii c && c != ',') = true)
    (hsolid : StartsSolid start.toList) : IsPart start where
  printable := by
    intro c hc
    exact (Bool.and_eq_true_iff.mp (List.all_eq_true.mp hall c hc)).1
  no_comma := by
    intro hc
    exact absurd (List.all_eq_true.mp hall ',' hc) (by decide)
  solid := hsolid

theorem isPart_maskValue {start : String} (hstart : IsPart start) (s : String) :
    IsPart (start ++ maskValue s) :=
  hstart.append fun _ hc =>
    ⟨(isValueChar_of_mem_maskValue hc).1, (isValueChar_of_mem_maskValue hc).2.1⟩

theorem isPart_priorityPart (context : SpanContext) : IsPart (priorityPart context) := by
  have hstart : IsPart "s:" := isPart_start (by decide) ⟨'s', [':'], by decide, by decide⟩
  refine hstart.append fun c hc => ?_
  rcases SamplingPriority.mem_text hc with rfl | hc
  · decide
  · exact ⟨isPrintableAscii_of_isLowerHex hc, ne_of_isLowerHex hc (by decide)⟩

theorem isPart_tagPart {tag : String × String} {part : String} (h : tagPart? tag = some part) :
    IsPart part := by
  obtain ⟨key, _, _, rfl⟩ := tagPart?_eq_some_iff.mp h
  have hstart : IsPart tagStart := isPart_start (by decide) ⟨'t', ['.'], by decide, by decide⟩
  have hkey : IsPart (tagStart ++ mask isTagKeyChar key) := hstart.append fun c hc =>
    ⟨(isTagKeyChar_of_mem_mask hc).1, (isTagKeyChar_of_mem_mask hc).2.2⟩
  have hcolon : ∀ c ∈ ":".toList, isPrintableAscii c = true ∧ c ≠ ',' := by
    intro c hc
    rw [List.mem_singleton.mp hc]
    decide
  exact isPart_maskValue (hkey.append hcolon) tag.2

theorem isPart_of_mem_otherParts {context : SpanContext} {part : String}
    (h : part ∈ otherParts context) : IsPart part := by
  rcases mem_otherParts h with ⟨origin, _, rfl⟩ | rfl | ⟨tag, _, htag⟩
  · exact isPart_maskValue (isPart_start (by decide) ⟨'o', [':'], by decide, by decide⟩) origin
  · have hstart : IsPart "p:" := isPart_start (by decide) ⟨'p', [':'], by decide, by decide⟩
    refine hstart.append fun c hc => ?_
    have hhex := isLowerHex_of_mem_hexPadded hc
    exact ⟨isPrintableAscii_of_isLowerHex hhex, ne_of_isLowerHex hhex (by decide)⟩
  · exact isPart_tagPart htag

theorem isPart_of_mem_memberParts {context : SpanContext} {part : String}
    (h : part ∈ memberParts context) : IsPart part := by
  rcases List.mem_cons.mp h with rfl | h
  · exact isPart_priorityPart context
  · exact isPart_of_mem_otherParts ((keptParts_sublist _ _).subset h)

theorem isPart_intercalate {part : String} {parts : List String}
    (h : ∀ x ∈ part :: parts, IsPart x) : IsPart (";".intercalate (part :: parts)) := by
  induction parts generalizing part with
  | nil => simpa using h
  | cons next parts ih =>
      rw [String.intercalate_cons_cons, String.append_assoc]
      have hrest : IsPart (";".intercalate (next :: parts)) :=
        ih fun x hx => h x (List.mem_cons_of_mem part hx)
      refine (h part List.mem_cons_self).append fun c hc => ?_
      rw [String.toList_append] at hc
      rcases List.mem_append.mp hc with hc | hc
      · rw [List.mem_singleton.mp hc]
        decide
      · exact ⟨hrest.printable c hc, fun heq => hrest.no_comma (heq ▸ hc)⟩

theorem isPart_memberContent (context : SpanContext) : IsPart (memberContent context) := by
  rw [memberContent_eq]
  exact isPart_intercalate fun x hx => isPart_of_mem_memberParts hx

end TraceHeaders.Format.TraceContext
