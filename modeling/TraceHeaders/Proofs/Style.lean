import Mathlib.Data.List.Basic
import Mathlib.Data.List.Induction
import TraceHeaders.Dispatch

namespace TraceHeaders

section EraseDups

variable {α : Type} [BEq α] [LawfulBEq α] {xs : List α} {x : α}

theorem eraseDups_concat_of_mem (h : x ∈ xs) : (xs ++ [x]).eraseDups = xs.eraseDups := by
  have hnone : [x].removeAll xs = [] :=
    List.filter_eq_nil_iff.mpr fun y hy => by simpa [List.mem_singleton.mp hy] using h
  rw [List.eraseDups_append, hnone, List.eraseDups_nil, List.append_nil]

theorem eraseDups_concat_of_not_mem (h : x ∉ xs) :
    (xs ++ [x]).eraseDups = xs.eraseDups ++ [x] := by
  have hsame : [x].removeAll xs = [x] :=
    List.filter_eq_self.mpr fun y hy => by simpa [List.mem_singleton.mp hy] using h
  rw [List.eraseDups_append, hsame, List.eraseDups_cons, List.filter_nil, List.eraseDups_nil]

theorem nodup_eraseDups (xs : List α) : xs.eraseDups.Nodup := by
  induction xs using List.reverseRecOn with
  | nil => exact List.nodup_nil
  | append_singleton xs x ih =>
      by_cases hx : x ∈ xs
      · rwa [eraseDups_concat_of_mem hx]
      · rw [eraseDups_concat_of_not_mem hx, List.nodup_append]
        refine ⟨ih, List.pairwise_singleton _ x, ?_⟩
        rintro y hy _ hsingle rfl
        rw [List.mem_singleton.mp hsingle] at hy
        exact hx (List.mem_eraseDups.mp hy)

theorem eraseDups_eraseDups (xs : List α) : xs.eraseDups.eraseDups = xs.eraseDups := by
  induction xs using List.reverseRecOn with
  | nil => rfl
  | append_singleton xs x ih =>
      by_cases hx : x ∈ xs
      · rw [eraseDups_concat_of_mem hx, ih]
      · have hnew : x ∉ xs.eraseDups := mt List.mem_eraseDups.mp hx
        rw [eraseDups_concat_of_not_mem hx, eraseDups_concat_of_not_mem hnew, ih]

end EraseDups

namespace Style

theorem distinct_concat (styles : List Style) (style : Style) :
    distinct (styles ++ [style]) =
      if style ∈ styles then distinct styles else distinct styles ++ [style] := by
  induction styles with
  | nil => rfl
  | cons first styles ih =>
      rw [List.cons_append, distinct, distinct, ih]
      by_cases hfirst : style = first
      · subst hfirst
        rw [if_pos List.mem_cons_self]
        split <;> simp
      · by_cases hrest : style ∈ styles
        · rw [if_pos hrest, if_pos (List.mem_cons_of_mem _ hrest)]
        · rw [if_neg hrest, if_neg (by simp [hfirst, hrest])]
          simp [hfirst]

theorem distinct_eq (styles : List Style) : distinct styles = styles.eraseDups := by
  induction styles using List.reverseRecOn with
  | nil => rfl
  | append_singleton styles style ih =>
      rw [distinct_concat, ih]
      split
      · rename_i hmem
        exact (eraseDups_concat_of_mem hmem).symm
      · rename_i hmem
        exact (eraseDups_concat_of_not_mem hmem).symm

theorem value_addOnce (styles : List Style) (style : Style) :
    (addOnce styles style).value = if style ∈ styles then styles else styles ++ [style] := by
  rw [addOnce]
  split <;> rfl

theorem value_once (styles : List Style) : (once styles).value = styles.eraseDups := by
  induction styles using List.reverseRecOn with
  | nil => rfl
  | append_singleton styles style ih =>
      rw [once, List.foldlM_append, Logged.value_bind, ← once, ih]
      by_cases hmem : style ∈ styles
      · rw [eraseDups_concat_of_mem hmem]
        exact (value_addOnce _ style).trans (if_pos (List.mem_eraseDups.mpr hmem))
      · rw [eraseDups_concat_of_not_mem hmem]
        exact (value_addOnce _ style).trans (if_neg (mt List.mem_eraseDups.mp hmem))

theorem nodup_once (styles : List Style) : (once styles).value.Nodup := by
  rw [value_once]
  exact nodup_eraseDups styles

theorem mem_once {styles : List Style} {style : Style} :
    style ∈ (once styles).value ↔ style ∈ styles := by
  rw [value_once, List.mem_eraseDups]

theorem map_filterMap_codec {γ : Type} {codec? : Style → Option γ} {styleOf : γ → Style}
    (h : ∀ style, (codec? style).map styleOf = if style = .none then Option.none else some style)
    (styles : List Style) :
    (styles.filterMap codec?).map styleOf = styles.filter (· ≠ .none) := by
  rw [List.map_filterMap, ← List.filterMap_eq_filter]
  apply List.filterMap_congr
  intro style _
  rw [h, Option.guard]
  by_cases hnone : style = .none <;> simp [hnone]

end Style

namespace Settings

variable {σ : Type} (settings : Settings)

theorem styles_extractorChain :
    (settings.extractorChain : Logged (ExtractorChain σ)).value.styles =
      settings.extractors.eraseDups.filter (· ≠ .none) := by
  rw [← Style.value_once]
  refine Style.map_filterMap_codec (fun style => ?_) _
  cases style <;> rfl

theorem styles_injectorChain (styles : List Style) :
    (settings.injectorChain styles : Logged (InjectorChain σ)).value.styles =
      styles.eraseDups.filter (· ≠ .none) := by
  rw [← Style.value_once]
  refine Style.map_filterMap_codec (fun style => ?_) _
  cases style <;> rfl

end Settings

end TraceHeaders
