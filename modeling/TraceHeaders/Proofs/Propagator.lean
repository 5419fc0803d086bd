import TraceHeaders.Propagator
import TraceHeaders.Proofs.Style
import TraceHeaders.Proofs.Text.Pieces

namespace TraceHeaders

open Text

variable {σ : Type}

theorem Logged.reduceOption_mapM {α β : Type} {step : α → Logged (Option β)} {result : α → Option β}
    (h : ∀ x, (step x).value = result x) (xs : List α) :
    (xs.mapM step).value.reduceOption = xs.filterMap result := by
  show (xs.mapM step).value.filterMap id = _
  rw [Logged.value_mapM, List.filterMap_map]
  exact List.filterMap_congr fun x _ => h x

namespace Style

theorem parse?_trim (s : String) : parse? (trim s) = parse? s := by
  rw [parse?, trim_trim, parse?]

theorem filterMap_parse?_trim (entries : List String) :
    (entries.map trim).filterMap parse? = entries.filterMap parse? := by
  rw [List.filterMap_map]
  apply List.filterMap_congr
  intro entry _
  rw [Function.comp_apply, parse?_trim]

/-- The styles that a text lists, if it has any entries.  An entry that names no style is left out, and
blank pieces are no entries. -/
def listed? (s : String) : Option (List Style) :=
  let entries := (pieces ',' s).filter fun piece => trim piece ≠ ""
  if entries = [] then Option.none else some (entries.filterMap parse?)

end Style

namespace Environment

theorem tokens_eq (s : String) :
    tokens s = ((pieces ',' s).filter fun piece => trim piece ≠ "").map trim := by
  rw [tokens, List.filter_map]
  congr 2
  funext piece
  rw [Function.comp_apply, Bool.eq_iff_iff, Bool.not_eq_true', decide_eq_true_iff,
    ← Bool.not_eq_true, String.isEmpty_iff]

theorem value_readStyle (token : String) : (readStyle token).value = Style.parse? token := by
  rw [readStyle]
  cases Style.parse? token <;> rfl

theorem value_readStyles (s : String) :
    (readStyles s).value = (Style.listed? s).map List.eraseDups := by
  rw [readStyles, tokens_eq, Style.listed?]
  generalize (pieces ',' s).filter (fun piece => trim piece ≠ "") = entries
  cases entries with
  | nil => rfl
  | cons first rest =>
      rw [if_neg (List.cons_ne_nil first rest), Option.map_some, ← Style.distinct_eq, List.map_cons]
      have hread : (((first :: rest).map trim).mapM readStyle).value.reduceOption =
          (first :: rest).filterMap Style.parse? := by
        rw [Logged.reduceOption_mapM value_readStyle, Style.filterMap_parse?_trim]
      rw [← hread]
      rfl

theorem value_readStylesOf (env : Environment) (v : Variable) (default : Option (List Style)) :
    (env.readStylesOf v default).value =
      (env.get? v).elim default fun s => (Style.listed? s).map List.eraseDups := by
  rw [readStylesOf]
  cases env.get? v with
  | none => rfl
  | some s => exact value_readStyles s

theorem styles_configuration (env : Environment) :
    env.configuration.value.styles =
        (env.readStylesOf .styles (some Settings.defaultStyles)).value ∧
      env.configuration.value.extractStyles = (env.readStylesOf .extractStyles none).value ∧
      env.configuration.value.injectStyles = (env.readStylesOf .injectStyles none).value := by
  rw [configuration]
  cases env.get? .headerBaggage <;> exact ⟨rfl, rfl, rfl⟩

end Environment

/-- The list of styles that a change sets in place of a variable. -/
def Change.stylesFor? (v : Variable) : Change → Option (List Style)
  | .styles given => if v = .styles then some given else none
  | .extractStyles given => if v = .extractStyles then some given else none
  | .injectStyles given => if v = .injectStyles then some given else none
  | _ => none

namespace Configuration

/-- A setting is what the last change to set it says, and else what it was before the changes. -/
theorem applyAll_eq {α : Type} {setting : Configuration → Option α} {given? : Change → Option α}
    (h : ∀ config change, setting (config.apply change) = (given? change).or (setting config))
    (config : Configuration) (changes : List Change) :
    setting (config.applyAll changes) =
      (changes.filterMap given?).getLast?.or (setting config) := by
  induction changes using List.reverseRecOn with
  | nil => rfl
  | append_singleton changes change ih =>
      have hlast : config.applyAll (changes ++ [change]) = (config.applyAll changes).apply change := by
        rw [applyAll, List.foldl_append]
        rfl
      rw [hlast, h, ih, List.filterMap_append, List.getLast?_append, Option.or_assoc]
      cases hgiven : given? change with
      | none => rw [List.filterMap_cons_none hgiven]; rfl
      | some value => rw [List.filterMap_cons_some hgiven]; rfl

end Configuration

namespace Environment

/-- The styles that are set under a variable: by the last change that sets them, else by its text. -/
def stylesSet? (env : Environment) (changes : List Change) (v : Variable) : Option (List Style) :=
  (changes.filterMap (Change.stylesFor? v)).getLast? <|> (env.get? v).bind Style.listed?

/-- The styles in force for one direction, repetitions and all. -/
def stylesInForce (env : Environment) (changes : List Change) (v : Variable) : List Style :=
  (env.stylesSet? changes v <|> env.stylesSet? changes .styles).getD [.datadog, .traceContext]

end Environment

theorem eraseDups_getD_or (a b c d : Option (List Style)) (default : List Style) :
    (((a.or (b.map List.eraseDups)).or (c.or (d.map List.eraseDups))).getD default).eraseDups =
      (((a.or b).or (c.or d)).getD default).eraseDups := by
  cases a with
  | some given => rfl
  | none =>
      cases b with
      | some listed => exact eraseDups_eraseDups listed
      | none =>
          cases c with
          | some given => rfl
          | none =>
              cases d with
              | some listed => exact eraseDups_eraseDups listed
              | none => rfl

/-- Where no variable sets the styles of both directions, the configuration has the default ones, which
is what counts for want of any. -/
theorem Environment.getD_or_styles (env : Environment) (own given : Option (List Style)) :
    (own.or (given.or env.configuration.value.styles)).getD Settings.defaultStyles =
      (own.or (given.or (((env.get? .styles).bind Style.listed?).map List.eraseDups))).getD
        Settings.defaultStyles := by
  rw [env.styles_configuration.1, value_readStylesOf]
  cases env.get? .styles with
  | some s => rfl
  | none => cases own <;> cases given <;> rfl

theorem Configuration.eraseDups_styles (env : Environment) (changes : List Change)
    (own : Configuration → Option (List Style)) {v : Variable}
    (happly : ∀ config change, own (apply config change) = (change.stylesFor? v).or (own config))
    (hread : own env.configuration.value = (env.readStylesOf v none).value) :
    let config := env.configuration.value.applyAll changes
    ((own config <|> config.styles).getD Settings.defaultStyles).eraseDups =
      (env.stylesInForce changes v).eraseDups := by
  intro config
  have hboth : ∀ config change, (apply config change).styles =
      (change.stylesFor? .styles).or config.styles := by
    intro config change
    cases change <;> rfl
  have hvariable : (env.readStylesOf v none).value =
      ((env.get? v).bind Style.listed?).map List.eraseDups := by
    rw [Environment.value_readStylesOf]
    cases env.get? v <;> rfl
  simp only [Environment.stylesInForce, Environment.stylesSet?, Option.orElse_eq_orElse,
    Option.orElse_eq_or]
  rw [applyAll_eq happly, applyAll_eq hboth, hread, hvariable, Environment.getD_or_styles]
  exact eraseDups_getD_or _ _ _ _ _

namespace Propagator

/-- Which codecs run: those of the styles in force, each once and in order, and none for the style
without headers.  With none to read, nothing is found and the carrier is left alone. -/
theorem styles_ofConfiguration (env : Environment) (changes : List Change) :
    let propagator : Propagator σ :=
      (ofConfiguration (env.configuration.value.applyAll changes)).value
    propagator.extractor.styles =
      (env.stylesInForce changes .extractStyles).eraseDups.filter (· ≠ .none) ∧
    propagator.injector.styles =
      (env.stylesInForce changes .injectStyles).eraseDups.filter (· ≠ .none) ∧
    (propagator.extractor.styles = [] → ∀ carrier : Action σ Headers,
      propagator.extractor.extract carrier = pure .nothing) := by
  intro propagator
  obtain ⟨-, hextract, hinject⟩ := env.styles_configuration
  refine ⟨?_, ?_, fun hempty carrier => ?_⟩
  · rw [← Configuration.eraseDups_styles env changes (·.extractStyles)
      (fun config change => by cases change <;> rfl) hextract]
    exact Settings.styles_extractorChain _
  · rw [← Configuration.eraseDups_styles env changes (·.injectStyles)
      (fun config change => by cases change <;> rfl) hinject]
    exact Settings.styles_injectorChain _ _
  · have hnobody : propagator.extractor.isEmpty = true :=
      List.isEmpty_iff.mpr (List.map_eq_nil_iff.mp hempty)
    rw [ExtractorChain.extract, hnobody]
    rfl

/-- An environment in which a variable switches reading off. -/
def silentEnvironment : Environment where
  get?
    | .styles => some "b3, B3Single ,datadog"
    | .extractStyles => some " none ,bogus"
    | _ => none

/-- An environment that lists styles for reading and for both directions, and none for writing. -/
def listedEnvironment : Environment where
  get?
    | .styles => some "b3, B3Single ,datadog"
    | .extractStyles => some " TraceContext,bogus,, xray ,tracecontext"
    | .injectStyles => some " ,"
    | _ => none

theorem styles_ofConfiguration_silent :
    let silent : Propagator Nat := (ofConfiguration
      (silentEnvironment.configuration.value.applyAll
        [.injectStyles [.haystack], .styles [.xray], .injectStyles [.none, .b3Multi, .b3Multi]])).value
    let listed : Propagator Nat := (ofConfiguration
      (listedEnvironment.configuration.value.applyAll [.extractFirst true])).value
    silent.extractor.styles = [] ∧ silent.injector.styles = [.b3Multi] ∧
      (∀ carrier : Action Nat Headers, silent.extractor.extract carrier = pure .nothing) ∧
      listed.extractor.styles = [.traceContext, .xray] ∧
      listed.injector.styles = [.b3Single, .datadog] := by
  intro silent listed
  obtain ⟨hreads, hwrites, hsilent⟩ := styles_ofConfiguration (σ := Nat) silentEnvironment
    [.injectStyles [.haystack], .styles [.xray], .injectStyles [.none, .b3Multi, .b3Multi]]
  obtain ⟨hread, hwritten, -⟩ := styles_ofConfiguration (σ := Nat) listedEnvironment
    [.extractFirst true]
  have hnone : silent.extractor.styles = [] := hreads.trans (by decide +kernel)
  exact ⟨hnone, hwrites.trans (by decide +kernel), hsilent hnone,
    hread.trans (by decide +kernel), hwritten.trans (by decide +kernel)⟩

end Propagator

end TraceHeaders
