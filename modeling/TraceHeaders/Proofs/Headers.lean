import TraceHeaders.Headers

namespace TraceHeaders.Headers

theorem get?_cons (header : Header) (entries : List Header) (name : String) :
    get? ⟨header :: entries⟩ name =
      if header.isNamed name then some header.value else get? ⟨entries⟩ name := by
  rw [get?, List.find?_cons]
  cases header.isNamed name <;> rfl

@[simp] theorem get?_nil (name : String) : get? ⟨[]⟩ name = none := rfl

theorem get?_append (entries others : List Header) (name : String) :
    get? ⟨entries ++ others⟩ name = (get? ⟨entries⟩ name).or (get? ⟨others⟩ name) := by
  rw [get?, List.find?_append, Option.map_or]
  rfl

/-- The value of a header under a name. -/
def valueUnder? (name : String) (header : Header) : Option String :=
  if header.isNamed name then some header.value else none

theorem get?_eq_head? (headers : Headers) (name : String) :
    headers.get? name = (headers.toList.filterMap (valueUnder? name)).head? := by
  obtain ⟨entries⟩ := headers
  induction entries with
  | nil => rfl
  | cons header entries ih =>
      rw [get?_cons, ih]
      cases hnamed : header.isNamed name <;> simp [valueUnder?, hnamed]

theorem get?_eq_none {entries : List Header} {name : String}
    (h : ∀ header ∈ entries, header.isNamed name = false) : get? ⟨entries⟩ name = none := by
  rw [get?, Option.map_eq_none_iff, List.find?_eq_none]
  intro header hheader
  rw [h header hheader]
  exact Bool.false_ne_true

theorem get?_append_of_unnamed {others : List Header} {name : String}
    (h : ∀ header ∈ others, header.isNamed name = false) (entries : List Header) :
    get? ⟨entries ++ others⟩ name = get? ⟨entries⟩ name := by
  rw [get?_append, get?_eq_none h, Option.or_none]

@[simp] theorem isNamed_mk_self (name value : String) :
    Header.isNamed ⟨name, value⟩ name = true := by
  rw [Header.isNamed, Text.sameIgnoringCase_iff]

theorem get?_toList {α : Type} (value? : Option α) (name : String) (f : α → String)
    (other : String) :
    get? ⟨(value?.map fun value => ⟨name, f value⟩).toList⟩ other =
      if Text.sameIgnoringCase name other then value?.map f else none := by
  cases value? with
  | none => simp
  | some value => rw [Option.map_some, Option.toList_some, get?_cons, Header.isNamed]; rfl

theorem names_toList_sublist {α : Type} (value? : Option α) (name : String) (f : α → String) :
    ((value?.map fun value => Header.mk name (f value)).toList.map (·.name)).Sublist [name] := by
  cases value? with
  | none => exact List.nil_sublist [name]
  | some _ => exact List.Sublist.refl [name]

theorem get?_flatMap {α : Type} {xs : List α} (hnodup : xs.Nodup) (f : α → List Header) {x : α}
    (hx : x ∈ xs) {name : String}
    (h : ∀ y ∈ xs, y ≠ x → ∀ header ∈ f y, header.isNamed name = false) :
    get? ⟨xs.flatMap f⟩ name = get? ⟨f x⟩ name := by
  induction xs with
  | nil => exact absurd hx List.not_mem_nil
  | cons y ys ih =>
      obtain ⟨hy, hys⟩ := List.nodup_cons.mp hnodup
      rw [List.flatMap_cons, get?_append]
      rcases List.mem_cons.mp hx with rfl | hx
      · have hrest : get? ⟨ys.flatMap f⟩ name = none := by
          apply get?_eq_none
          intro header hheader
          obtain ⟨z, hz, hheader⟩ := List.mem_flatMap.mp hheader
          refine h z (List.mem_cons_of_mem x hz) ?_ header hheader
          rintro rfl
          exact hy hz
        rw [hrest, Option.or_none]
      · have hne : y ≠ x := by
          rintro rfl
          exact hy hx
        rw [get?_eq_none (h y List.mem_cons_self hne), Option.none_or,
          ih hys hx fun z hz => h z (List.mem_cons_of_mem y hz)]

end TraceHeaders.Headers
