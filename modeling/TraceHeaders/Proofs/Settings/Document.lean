import TraceHeaders.Proofs.Propagator
import TraceHeaders.Settings.Document

namespace TraceHeaders

open Text

namespace Style

theorem parse?_of_trim_eq_empty {s : String} (h : trim s = "") : parse? s = Option.none := by
  rw [parse?, h]
  rfl

theorem filterMap_parse?_entries (parts : List String) :
    (parts.filter fun piece => trim piece ≠ "").filterMap parse? = parts.filterMap parse? := by
  rw [List.filterMap_filter]
  apply List.filterMap_congr
  intro piece _
  split
  · rfl
  · rename_i hblank
    rw [decide_eq_true_iff, not_not] at hblank
    exact (parse?_of_trim_eq_empty hblank).symm

def HasEntry (s : String) : Prop := ∃ piece ∈ pieces ',' s, trim piece ≠ ""

theorem not_hasEntry_empty : ¬ HasEntry "" := by
  rintro ⟨piece, hpiece, hsolid⟩
  have hblank : ∀ piece ∈ pieces ',' "", trim piece = "" := by decide
  exact hsolid (hblank piece hpiece)

theorem listed?_of_hasEntry {s : String} (h : HasEntry s) :
    listed? s = some ((pieces ',' s).filterMap parse?) := by
  obtain ⟨piece, hpiece, hsolid⟩ := h
  have hentries : ¬ ((pieces ',' s).filter fun piece => trim piece ≠ "") = [] :=
    List.ne_nil_of_mem (List.mem_filter.mpr ⟨hpiece, decide_eq_true hsolid⟩)
  rw [listed?, if_neg hentries, filterMap_parse?_entries]

theorem blank_of_not_hasEntry {s : String} (h : ¬ HasEntry s) :
    ∀ piece ∈ pieces ',' s, trim piece = "" := by
  intro piece hpiece
  by_contra hsolid
  exact h ⟨piece, hpiece, hsolid⟩

theorem listed?_of_not_hasEntry {s : String} (h : ¬ HasEntry s) : listed? s = Option.none := by
  have hentries : ((pieces ',' s).filter fun piece => trim piece ≠ "") = [] := by
    rw [List.filter_eq_nil_iff]
    intro piece hpiece
    simp [blank_of_not_hasEntry h piece hpiece]
  rw [listed?, if_pos hentries]

theorem filterMap_parse?_of_not_hasEntry {s : String} (h : ¬ HasEntry s) :
    (pieces ',' s).filterMap parse? = [] := by
  rw [List.filterMap_eq_nil_iff]
  intro piece hpiece
  exact parse?_of_trim_eq_empty (blank_of_not_hasEntry h piece hpiece)

end Style

namespace Document

theorem value_readStyle (token : String) : (readStyle token).value = Style.parse? token := by
  rw [readStyle]
  cases Style.parse? token <;> rfl

theorem value_readStyles (s : String) :
    (readStyles s).value =
      if s = "" then none else some ((pieces ',' s).filterMap Style.parse?).eraseDups := by
  have hread : (((pieces ',' s).map trim).mapM readStyle).value.reduceOption =
      (pieces ',' s).filterMap Style.parse? := by
    rw [Logged.reduceOption_mapM value_readStyle, Style.filterMap_parse?_trim]
  by_cases hempty : s = ""
  · subst hempty
    rfl
  · have hisEmpty : ¬ s.isEmpty = true := mt String.isEmpty_iff.mp hempty
    rw [readStyles, if_neg hisEmpty, if_neg hempty, ← Style.distinct_eq, ← hread]
    rfl

/-- A document that sets nothing but the styles to read. -/
def ofExtractStyles (s : String) : Document := .fields [("style_extract", .text s)]

theorem settings?_ofExtractStyles (s : String) :
    (ofExtractStyles s).settings?.run.value =
      some { extractStyles := (readStyles s).value } := rfl

theorem extractors_ofExtractStyles (s : String) :
    Settings.extractors { extractStyles := (readStyles s).value } =
      if s = "" then Settings.defaultStyles
      else ((pieces ',' s).filterMap Style.parse?).eraseDups := by
  rw [Settings.extractors, value_readStyles]
  split <;> rfl

end Document

namespace Environment

/-- An environment that sets nothing but the styles to read. -/
def ofExtractStyles (s : String) : Environment where
  get?
    | .extractStyles => some s
    | _ => none

theorem extractors_ofExtractStyles (s : String) :
    (ofExtractStyles s).configuration.value.settings.extractors =
      (Style.listed? s).elim Settings.defaultStyles List.eraseDups := by
  obtain ⟨hboth, hextract, -⟩ := (ofExtractStyles s).styles_configuration
  have hread : ((ofExtractStyles s).readStylesOf .extractStyles none).value =
      (Style.listed? s).map List.eraseDups := value_readStylesOf _ _ _
  have hdefault : ((ofExtractStyles s).readStylesOf .styles (some Settings.defaultStyles)).value =
      some Settings.defaultStyles := value_readStylesOf _ _ _
  rw [Settings.extractors, Configuration.settings, hextract, hboth, hread, hdefault]
  cases Style.listed? s <;> rfl

end Environment

/-- The styles that are read are the same, whether a document or the environment lists them, if and only
if the list is empty or has an entry.  Otherwise the document has nothing read and the environment the
default styles. -/
theorem Settings.styles_ofExtractStyles_eq_iff {σ : Type} (s : String) :
    ∃ settings, (Document.ofExtractStyles s).settings?.run.value = some settings ∧
      let inDocument := (settings.extractorChain : Logged (ExtractorChain σ)).value.styles
      let inEnvironment :=
        ((Environment.ofExtractStyles s).configuration.value.settings.extractorChain :
          Logged (ExtractorChain σ)).value.styles
      (inDocument = inEnvironment ↔ s = "" ∨ Style.HasEntry s) ∧
        (inDocument = inEnvironment ∨
          inDocument = [] ∧ inEnvironment = [.datadog, .traceContext]) := by
  refine ⟨_, Document.settings?_ofExtractStyles s, ?_⟩
  rw [Settings.styles_extractorChain, Settings.styles_extractorChain,
    Document.extractors_ofExtractStyles, Environment.extractors_ofExtractStyles]
  by_cases hentry : Style.HasEntry s
  · have hne : s ≠ "" := by
      rintro rfl
      exact Style.not_hasEntry_empty hentry
    rw [Style.listed?_of_hasEntry hentry, if_neg hne]
    exact ⟨iff_of_true rfl (.inr hentry), .inl rfl⟩
  · rw [Style.listed?_of_not_hasEntry hentry, Style.filterMap_parse?_of_not_hasEntry hentry]
    by_cases hempty : s = ""
    · rw [if_pos hempty]
      exact ⟨iff_of_true rfl (.inl hempty), .inl rfl⟩
    · rw [if_neg hempty]
      exact ⟨iff_of_false (by decide) (not_or_intro hempty hentry), .inr ⟨rfl, rfl⟩⟩

theorem Settings.not_styles_ofExtractStyles_eq :
    ¬ ∀ (s : String) (settings : Settings),
      (Document.ofExtractStyles s).settings?.run.value = some settings →
      (settings.extractorChain : Logged (ExtractorChain Nat)).value.styles =
        ((Environment.ofExtractStyles s).configuration.value.settings.extractorChain :
          Logged (ExtractorChain Nat)).value.styles := by
  intro h
  have hsame := h "," _ (Document.settings?_ofExtractStyles ",")
  rw [Settings.styles_extractorChain, Settings.styles_extractorChain,
    Environment.extractors_ofExtractStyles] at hsame
  exact absurd hsame (by decide +kernel)

end TraceHeaders
