import TraceHeaders.Proofs.Carrier
import TraceHeaders.Proofs.Chain.Agreement
import TraceHeaders.Proofs.Format.Relevance

/-!
The order of headers.  Names are looked up from the front, span tags and baggage items count from the
back, and what is known about the client counts from the front; none of it shows when no two headers
are found under one name or entered under one key.  So it does not matter how a carrier is visited.
-/

namespace TraceHeaders

open Text

namespace Headers

/-- Headers that are read from headers, by a visitor that keeps everything it is shown. -/
def reread (headers : Headers) : Headers where
  toList := headers.visit (fun header seen => (true, seen ++ [header])) []

theorem reread_eq (headers : Headers) : headers.reread = headers := by
  have hvisit (entries seen : List Header) :
      visitFrom (fun header seen => (true, seen ++ [header])) seen entries = seen ++ entries := by
    induction entries generalizing seen with
    | nil => rw [visitFrom, List.append_nil]
    | cons header entries ih => simp only [visitFrom, ih, List.append_assoc, List.singleton_append]
  rw [reread, visit, hvisit]
  rfl

end Headers

/-- Whether two headers are entered under one key. -/
def clashes (key other : Option String) : Bool := key.isSome && key == other

theorem not_clashes_some {key other : String} (h : clashes (some key) (some other) = false) :
    key ≠ other := by
  rintro rfl
  simp [clashes] at h

/-- Headers that do not get into each other's way: no two of them have one name, are recorded under
one span tag, or hold one baggage item of a configured style. -/
structure Settings.KeepsApart (settings : Settings) (headers : List Header) : Prop where
  names : headers.Pairwise fun a b => sameIgnoringCase a.name b.name = false
  tags : headers.Pairwise fun a b =>
    clashes (settings.headerTags.get? a.lowerName) (settings.headerTags.get? b.lowerName) = false
  baggage : ∀ style ∈ settings.extractors, style ≠ .none → headers.Pairwise fun a b =>
    clashes (SideData.baggageKey? settings style.baggageStart? a.lowerName)
      (SideData.baggageKey? settings style.baggageStart? b.lowerName) = false

namespace Settings.KeepsApart

variable {settings : Settings} {headers order : List Header}

theorem lowerName_ne (h : settings.KeepsApart headers) :
    headers.Pairwise fun a b => a.lowerName ≠ b.lowerName :=
  h.names.imp fun hname heq => by
    rw [sameIgnoringCase_iff.mpr heq] at hname
    exact Bool.noConfusion hname

theorem get?_perm (h : settings.KeepsApart headers) (hperm : order.Perm headers) (name : String) :
    Headers.get? ⟨order⟩ name = Headers.get? ⟨headers⟩ name := by
  -- At most one header has the name, so that there is nothing to put in another order.
  have hone : (headers.filterMap (Headers.valueUnder? name)).Pairwise fun _ _ => False := by
    rw [List.pairwise_filterMap]
    refine h.lowerName_ne.imp fun hne value hvalue other hother => ?_
    rw [Headers.valueUnder?, Option.ite_none_right_eq_some] at hvalue hother
    exact hne ((sameIgnoringCase_iff.mp hvalue.1).trans (sameIgnoringCase_iff.mp hother.1).symm)
  have hvalues := hperm.filterMap (Headers.valueUnder? name)
  rw [Headers.get?_eq_head?, Headers.get?_eq_head?]
  exact congrArg List.head? (hvalues.eq_of_pairwise (fun _ _ _ _ hfalse _ => hfalse.elim)
    (hvalues.symm.pairwise hone id) hone)

theorem pairwise_items {key? : Header → Option String} {value : String → Header → String}
    (h : headers.Pairwise fun a b => clashes (key? a) (key? b) = false) :
    (headers.filterMap fun header => (key? header).map fun key => (key, value key header)).Pairwise
      fun a b => a.1 ≠ b.1 := by
  rw [List.pairwise_filterMap]
  refine h.imp fun hclash item hitem other hother => ?_
  obtain ⟨key, hkey, rfl⟩ := Option.map_eq_some_iff.mp hitem
  obtain ⟨otherKey, hotherKey, rfl⟩ := Option.map_eq_some_iff.mp hother
  rw [hkey, hotherKey] at hclash
  exact not_clashes_some hclash

theorem pairwise_clientItems (h : settings.KeepsApart headers) :
    (headers.filterMap SideData.clientItem?).Pairwise fun a b => a.1 ≠ b.1 := by
  rw [List.pairwise_filterMap]
  refine h.lowerName_ne.imp fun hne item hitem other hother => ?_
  obtain ⟨client, hclient, rfl⟩ := Option.map_eq_some_iff.mp hitem
  obtain ⟨otherClient, hotherClient, rfl⟩ := Option.map_eq_some_iff.mp hother
  rw [ClientHeader.name_of_ofName? hclient, ClientHeader.name_of_ofName? hotherClient]
  exact hne

/-- A configured style cannot tell in which order the headers stand. -/
theorem seesAlike (h : settings.KeepsApart headers) (hperm : order.Perm headers) {style : Style}
    (hstyle : style ∈ settings.extractors) (hnone : style ≠ .none) :
    style.SeesAlike settings ⟨order⟩ ⟨headers⟩ := by
  refine ⟨fun key _ => h.get?_perm hperm key,
    SideData.eq_of_values ?_ ?_ (TextMap.ext_get? fun name => ?_)⟩
  · rw [SideData.tags_collect, SideData.tags_collect]
    exact (TextMap.ofList_perm (hperm.symm.filterMap _) (pairwise_items h.tags)).symm
  · rw [SideData.baggage_collect, SideData.baggage_collect]
    exact (TextMap.ofList_perm (hperm.symm.filterMap _)
      (pairwise_items (h.baggage style hstyle hnone))).symm
  · rw [SideData.clientHeaders_collect, SideData.clientHeaders_collect]
    exact (TextMap.valueOf?_perm (hperm.symm.filterMap _) h.pairwise_clientItems name).symm

end Settings.KeepsApart

namespace Settings

variable {σ τ : Type} {settings : Settings} {headers order : List Header}

theorem extracted_congr {carrier other : Carrier}
    (h : ∀ style ∈ settings.extractors, style ≠ .none →
      style.SeesAlike settings carrier.headers other.headers) (state : σ) (otherState : τ) :
    settings.extracted carrier state = settings.extracted other otherState := by
  have houtcomes : ∀ read ∈ (Style.once settings.extractors).value.filterMap (·.read? settings),
      (read carrier.headers).outcome = (read other.headers).outcome := by
    intro read hread
    obtain ⟨style, hstyle, hread⟩ := List.mem_filterMap.mp hread
    have hnone : style ≠ .none := by
      rintro rfl
      exact absurd hread (Option.some_ne_none read).symm
    exact Style.outcome_read?_congr hread (h style (Style.mem_once.mp hstyle) hnone)
  rw [extracted_eq, extracted_eq, List.map_congr_left houtcomes]

theorem KeepsApart.extracted_perm (h : settings.KeepsApart headers) (carrier : Carrier)
    (hperm : carrier.toList.Perm headers) (state : σ) (other : τ) :
    settings.extracted carrier other = settings.extracted (.list headers) state :=
  extracted_congr (fun _ => h.seesAlike hperm) other state

/-- What a chain finds among headers that do not get into each other's way does not depend on their
order, nor on the carrier that holds them: a list, a map that is visited in any order, headers that
were read before, or a carrier that is read by name. -/
theorem extracted_order_free (h : settings.KeepsApart headers) (state : σ) (other : τ) :
    let found := settings.extracted (.list headers) state
    (∀ order : List Header, order.Perm headers →
      settings.extracted (.list order) other = found ∧
      settings.extracted (.keyed order) other = found ∧
      settings.extracted (.list (Headers.reread ⟨order⟩).toList) other = found) ∧
    settings.extracted (.ofHeaders headers) other = found ∧
    ∀ visited : List Header, visited.Perm (Carrier.ofHeaders headers).toList →
      settings.extracted (.list visited) other = found := by
  have hnames : headers.Pairwise fun a b => a.name ≠ b.name :=
    h.lowerName_ne.imp fun hne heq => hne (congrArg lowerAscii heq)
  have hmap := Carrier.toList_ofHeaders_perm hnames
  refine ⟨fun order horder => ⟨h.extracted_perm (.list order) horder state other, ?_, ?_⟩,
    h.extracted_perm (.ofHeaders headers) hmap state other, fun visited hvisited =>
      h.extracted_perm (.list visited) (hvisited.trans hmap) state other⟩
  · refine h.extracted_perm (.keyed order) ?_ state other
    rw [Carrier.toList_keyed (horder.symm.pairwise hnames Ne.symm)]
    exact horder
  · rw [Headers.reread_eq]
    exact h.extracted_perm (.list order) horder state other

def scatteredSettings : Settings :=
  { taggingSettings with extractStyles := some [.traceContext, .none, .datadog, .haystack] }

/-- Headers of several styles, in which two headers hold the same baggage item of different styles. -/
def scatteredHeaders : List Header :=
  [⟨"User-Agent", "curl"⟩, ⟨"ot-baggage-user", "a%20b"⟩, ⟨"tracestate", "vendor=1,dd=s:2"⟩,
    ⟨"X-Datadog-Parent-Id", "6"⟩, ⟨"Baggage-User", "j%C3%B6rg"⟩, ⟨"x-datadog-trace-id", "5"⟩,
    ⟨"X-Request-Id", "7"⟩, ⟨"x-account", "acme+corp"⟩,
    ⟨"TraceParent", "00-00000000000000000000000000000005-0000000000000009-01"⟩]

theorem keepsApart_scatteredHeaders : scatteredSettings.KeepsApart scatteredHeaders where
  names := by decide +kernel
  tags := by decide +kernel
  baggage := by decide +kernel

theorem extracted_order_free_scattered :
    let found := scatteredSettings.extracted (.list scatteredHeaders) ()
    scatteredSettings.KeepsApart scatteredHeaders ∧
    scatteredSettings.extracted (.list scatteredHeaders.reverse) () = found ∧
    scatteredSettings.extracted (.keyed scatteredHeaders.reverse) () = found ∧
    scatteredSettings.extracted (.ofHeaders scatteredHeaders) () = found := by
  obtain ⟨horder, hmap, _⟩ := extracted_order_free keepsApart_scatteredHeaders () ()
  obtain ⟨hlist, hkeyed, _⟩ := horder scatteredHeaders.reverse (List.reverse_perm scatteredHeaders)
  exact ⟨keepsApart_scatteredHeaders, hlist, hkeyed, hmap⟩

end Settings

end TraceHeaders
