import Mathlib.Data.List.Nodup
import TraceHeaders.Proofs.Chain.Agreement
import TraceHeaders.Proofs.Chain.Delivery

namespace TraceHeaders

variable {σ : Type}

/-- Headers as they were declared, for names of a codec's own and names of baggage items.  There is at
most one header under a name of the codec, in whatever case, unless a baggage item shares the name. -/
structure IsDeclared (keys names : List String) (writes : List Header) : Prop where
  declared : ∀ header ∈ writes, header.name ∈ keys ∨ header.name ∈ names
  once : ∀ key ∈ keys, 1 < writes.countP (·.isNamed key) →
    ∃ name ∈ names, Text.sameIgnoringCase name key = true

namespace Style

theorem countP_keys_le_one (style : Style) (name : String) :
    style.keys.countP (Text.sameIgnoringCase · name) ≤ 1 := by
  have hcount : style.keys.countP (Text.sameIgnoringCase · name) =
      (style.keys.map Text.lowerAscii).count (Text.lowerAscii name) := by
    rw [List.count, List.countP_map]
    rfl
  rw [hcount]
  exact List.nodup_iff_count_le_one.mp style.nodup_lowerAscii_keys _

theorem countP_written_le (settings : Settings) (context : SpanContext) (style : Style)
    (named : String → Bool) :
    (style.written settings context).countP (named ·.name) ≤
      style.keys.countP named + (style.baggageNames settings context.baggage).countP named := by
  have hcount := (style.names_written_subperm settings context).countP_le named
  rwa [List.countP_map, List.countP_append] at hcount

theorem isDeclared_written (settings : Settings) (context : SpanContext) (style : Style) :
    IsDeclared style.keys (style.baggageNames settings context.baggage)
      (style.written settings context) where
  declared _ := name_of_mem_written
  once := by
    intro key _ htwice
    have hcount := style.countP_written_le settings context (Text.sameIgnoringCase · key)
    have hkeys := style.countP_keys_le_one key
    have hbaggage : 0 < (style.baggageNames settings context.baggage).countP
        (Text.sameIgnoringCase · key) := by
      have htwice : 1 < (style.written settings context).countP
        fun header => Text.sameIgnoringCase header.name key := htwice
      omega
    exact List.countP_pos_iff.mp hbaggage

end Style

namespace Settings

theorem mem_keys_injectorChain {settings : Settings} {styles : List Style} {style : Style}
    (hstyle : style ∈ styles) {write : SpanContext → Logged (List Header)}
    (hwrite : style.write? settings = some write) {key : String} (hkey : key ∈ style.keys) :
    key ∈ (settings.injectorChain styles : Logged (InjectorChain σ)).value.keys := by
  have hinjector : (style.injector? settings : Option (Injector σ)) =
      some (.ofWriting style style.keys write) := by
    rw [Style.injector?, hwrite, Option.map_some]
  rw [InjectorChain.keys, List.mem_eraseDups, List.mem_flatMap]
  exact ⟨_, List.mem_filterMap.mpr ⟨style, Style.mem_once.mpr hstyle, hinjector⟩, hkey⟩

/-- Every injector writes what it declares, and a chain of injectors adds nothing to a carrier under any
other name. -/
theorem injectors_keep_to_declared (settings : Settings) :
    (∀ (style : Style) (injector : Injector σ), style.injector? settings = some injector →
      ∀ (context : SpanContext) (state : σ),
        IsDeclared injector.keys (style.baggageNames settings context.baggage)
          ((injector.inject context).run state).value.1.writes) ∧
    ∀ (styles : List Style) (context : SpanContext) (carrier : Carrier) (state : σ),
      let chain : InjectorChain σ := (settings.injectorChain styles).value
      carrier.AddsOnly
        (fun name => name ∈ chain.keys ∨
          ∃ style ∈ styles, name ∈ style.baggageNames settings context.baggage)
        ((chain.inject context carrier).run state).value.1.2 := by
  constructor
  · intro style injector hinjector context state
    obtain ⟨write, hwrite, rfl⟩ := Option.map_eq_some_iff.mp hinjector
    have hwritten : style.written settings context = (write context).value := by
      rw [Style.written, hwrite, Option.elim_some]
    have hdeclared := style.isDeclared_written settings context
    rw [hwritten] at hdeclared
    exact hdeclared
  · intro styles context carrier state chain
    rw [value_inject]
    apply Carrier.addsOnly_setAll
    intro header hheader
    obtain ⟨style, hstyle, hheader⟩ := List.mem_flatMap.mp hheader
    have hstyle : style ∈ styles := Style.mem_once.mp hstyle
    rcases Style.name_of_mem_written hheader with hkey | hbaggage
    · cases hwrite : style.write? settings with
      | none =>
          rw [Style.written, hwrite] at hheader
          exact absurd hheader List.not_mem_nil
      | some write => exact .inl (mem_keys_injectorChain hstyle hwrite hkey)
    · rw [context.baggage_withSession] at hbaggage
      exact .inr ⟨style, hstyle, hbaggage⟩

/-- Settings under which a baggage item comes under a name of the style. -/
def sharingSettings : Settings where
  baggageHeaders := .ofList [("user.id", "X-Datadog-Origin")]

def sharingContext : SpanContext where
  traceId := .bits64 1
  spanId := 2
  origin := some "rum"
  baggage := .ofList [("user.id", "7"), ("plan", "b")]

theorem injectors_keep_to_declared_sharing :
    ∃ injector : Injector Unit, Style.datadog.injector? sharingSettings = some injector ∧
      let writes := ((injector.inject sharingContext).run ()).value.1.writes
      let chain : InjectorChain Unit := (sharingSettings.injectorChain [.datadog, .none, .xray]).value
      let before : TextMap := .ofList [("accept", "*/*"), ("x-datadog-trace-id", "9")]
      IsDeclared injector.keys ["ot-baggage-plan", "X-Datadog-Origin"] writes ∧
      writes.countP (·.isNamed "x-datadog-origin") = 2 ∧
      ∃ after, ((chain.inject sharingContext (.map before)).run ()).value.1.2 = .map after ∧
        after.get? "accept" = some "*/*" := by
  obtain ⟨hinjector, hchain⟩ := injectors_keep_to_declared (σ := Unit) sharingSettings
  have hnames : Style.datadog.baggageNames sharingSettings sharingContext.baggage =
      ["ot-baggage-plan", "X-Datadog-Origin"] := by decide +kernel
  refine ⟨_, rfl, ?_, by decide +kernel, ?_⟩
  · rw [← hnames]
    exact hinjector .datadog _ rfl sharingContext ()
  · have hkept := hchain [.datadog, .none, .xray] sharingContext
      (.map (.ofList [("accept", "*/*"), ("x-datadog-trace-id", "9")])) ()
    dsimp only at hkept
    rw [value_inject, Carrier.setAll_map] at hkept ⊢
    refine ⟨_, rfl, (hkept "accept" ?_).trans (by decide)⟩
    rintro name (hkey | ⟨style, hstyle, hname⟩)
    · have hkeys : ∀ name ∈ ((sharingSettings.injectorChain [.datadog, .none, .xray] :
          Logged (InjectorChain Unit)).value.keys), Text.lower name ≠ "accept" := by decide +kernel
      exact hkeys name hkey
    · have hbaggage : ∀ style ∈ [Style.datadog, .none, .xray],
          ∀ name ∈ style.baggageNames sharingSettings sharingContext.baggage,
            Text.lower name ≠ "accept" := by decide +kernel
      exact hbaggage style hstyle name hname

end Settings

end TraceHeaders
