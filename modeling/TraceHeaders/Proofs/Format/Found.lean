import TraceHeaders.Proofs.Format.Datadog
import TraceHeaders.Proofs.Format.Relevance
import TraceHeaders.Proofs.Format.TraceContext.Read

namespace TraceHeaders

open Format Text

/-- A span context as a codec finds it: it names a trace, came from outside, links to no other trace,
holds propagated tags alone and bears the style of the codec.  The W3C headers always name a span as
well. -/
structure SpanContext.IsFoundAs (style : Style) (context : SpanContext) : Prop where
  trace : context.traceId.toNat ≠ 0
  span : style = .traceContext → context.spanId ≠ 0
  remote : context.isRemote = true
  links : context.links = []
  tags : ∀ tag ∈ context.propagationTags.tags.toList, begins "_dd.p." tag.1 = true
  bears : context.style = some style

namespace Style

/-- Baggage that belongs to the identity in the headers of a style. -/
def reservedBaggage : Style → List String
  | haystack => Haystack.reservedKeys
  | _ => []

/-- What there is beside the identity in the headers of a style. -/
def sideData (settings : Settings) (style : Style) (headers : Headers) : SideData :=
  let side := (SideData.collect settings style.baggageStart? headers).value
  { side with baggage := style.reservedBaggage.foldl TextMap.erase side.baggage }

end Style

/-- A result of a codec that is well formed beside some side data.  Data without an identity is never
empty, and nothing is found only where there is no side data. -/
def Extracted.IsWellFormed (style : Style) (side : SideData) : Extracted → Prop
  | .full context => context.IsFoundAs style
  | .tagsOnly context => context.style = some style ∧ context.isEmpty = false
  | .nothing => side.tags = ∅ ∧ side.baggage = ∅ ∧ side.clientHeaders = ∅

namespace Reading

/-- Whatever the steps find has a property. -/
def Ensures (P : Extracted → Prop) (x : Reading Extracted) : Prop :=
  ∀ extracted, x.outcome = .ok extracted → P extracted

variable {α : Type} {P : Extracted → Prop}

theorem ensures_bind {x : Reading α} {f : α → Reading Extracted}
    (h : ∀ a, x.outcome = .ok a → (f a).Ensures P) : (x >>= f).Ensures P := by
  intro extracted hfound
  obtain ⟨a, ha, hfound⟩ := outcome_bind_eq_ok_iff.mp hfound
  exact h a ha extracted hfound

theorem ensures_liftM_bind {x : Logged α} {f : α → Reading Extracted}
    (h : (f x.value).Ensures P) : (liftM x >>= f).Ensures P := by
  intro extracted hfound
  rw [outcome_liftM_bind] at hfound
  exact h extracted hfound

theorem ensures_fail_bind (e : CodecError) (f : α → Reading Extracted) :
    (fail e >>= f).Ensures P := by
  intro extracted hfound
  obtain ⟨a, ha, _⟩ := outcome_bind_eq_ok_iff.mp hfound
  rw [outcome_fail] at ha
  cases ha

variable {style : Style}

theorem ensures_withoutIdentity (side : SideData) (origin : Option String) (style : Style) :
    (pure (side.withoutIdentity origin style) : Reading Extracted).Ensures
      (·.IsWellFormed style side) := by
  rintro _ ⟨⟩
  rw [SideData.withoutIdentity]
  split
  · rename_i hempty
    simp only [TagContext.isEmpty, Bool.and_eq_true, TextMap.isEmpty_iff,
      ClientHeaders.isEmpty_iff] at hempty
    obtain ⟨⟨⟨_, htags⟩, hbaggage⟩, hclients⟩ := hempty
    exact ⟨htags, hbaggage, hclients⟩
  · rename_i hsome
    exact ⟨rfl, Bool.eq_false_iff.mpr hsome⟩

theorem ensures_complete {context : SpanContext} (htrace : context.traceId.isZero = false)
    (hstyle : context.style = some style) (hremote : context.isRemote = true)
    (hlinks : context.links = []) (hspan : style = .traceContext → context.spanId ≠ 0)
    (side own : SideData) :
    (pure (side.complete context) : Reading Extracted).Ensures (·.IsWellFormed style own) := by
  have hnumber : context.traceId.toNat ≠ 0 := by
    intro hzero
    rw [TraceId.isZero_iff.mpr hzero] at htrace
    exact Bool.noConfusion htrace
  rintro _ ⟨⟩
  exact ⟨hnumber, hspan, hremote, hlinks, context.propagationTags.propagated, hstyle⟩

theorem ensures_unless_zero {traceId : TraceId} {side : SideData} {x : Reading Extracted}
    (h : traceId.isZero = false → x.Ensures (·.IsWellFormed style side)) :
    (if traceId.isZero then pure (side.withoutIdentity none style) else x).Ensures
      (·.IsWellFormed style side) := by
  split
  · exact ensures_withoutIdentity side none style
  · rename_i htrace
    exact h (Bool.eq_false_iff.mpr htrace)

end Reading

open Reading

namespace Format

variable (settings : Settings) (headers : Headers)

theorem Datadog.ensures_read : (Datadog.read settings headers).Ensures
    (·.IsWellFormed .datadog (Style.datadog.sideData settings headers)) := by
  rw [Datadog.read]
  refine ensures_liftM_bind (ensures_bind fun lower _ => ?_)
  split
  · exact ensures_withoutIdentity _ _ _
  · rename_i hlower
    refine ensures_bind fun spanId _ => ensures_bind fun priority _ => ensures_bind fun tags _ => ?_
    refine ensures_complete (TraceId.isZero_of_lower ?_) rfl rfl rfl Style.noConfusion _ _
    rwa [lower_withUpperHex]

theorem B3.Multi.ensures_read : (B3.Multi.read settings headers).Ensures
    (·.IsWellFormed .b3Multi (Style.b3Multi.sideData settings headers)) := by
  rw [B3.Multi.read]
  refine ensures_liftM_bind ?_
  dsimp only
  split
  all_goals
    refine ensures_bind fun traceId _ => ensures_unless_zero fun htrace => ?_
    split
    all_goals
      refine ensures_bind fun spanId _ => ensures_bind fun priority _ => ?_
      exact ensures_complete htrace rfl rfl rfl Style.noConfusion _ _

theorem B3.Single.ensures_read : (B3.Single.read settings headers).Ensures
    (·.IsWellFormed .b3Single (Style.b3Single.sideData settings headers)) := by
  rw [B3.Single.read]
  refine ensures_liftM_bind ?_
  dsimp only
  split
  · exact ensures_withoutIdentity _ _ _
  · split
    · split
      · exact ensures_fail_bind _ _
      · refine ensures_bind fun traceId _ => ensures_unless_zero fun htrace => ?_
        refine ensures_bind fun spanId _ => ensures_bind fun priority _ => ?_
        exact ensures_complete htrace rfl rfl rfl Style.noConfusion _ _
    · exact ensures_bind fun _ _ => ensures_withoutIdentity _ _ _

theorem Haystack.ensures_read : (Haystack.read settings headers).Ensures
    (·.IsWellFormed .haystack (Style.haystack.sideData settings headers)) := by
  rw [Haystack.read]
  refine ensures_liftM_bind ?_
  dsimp only
  split
  all_goals
    refine ensures_bind fun traceId _ => ensures_unless_zero fun htrace => ?_
    split
    all_goals
      refine ensures_bind fun spanId _ => ensures_bind fun priority _ => ?_
      exact ensures_complete htrace rfl rfl rfl Style.noConfusion _ _

namespace Xray

theorem baggage_of_readMember {found next : Members} {member : String × String}
    (h : (readMember found member).outcome = .ok next) :
    next.baggage = found.baggage ∨
      ∃ key value, next.baggage = found.baggage.insert key value := by
  simp only [readMember] at h
  split at h
  · obtain ⟨traceId, _, h⟩ := outcome_bind_eq_ok_iff.mp h
    cases h
    exact .inl rfl
  split at h
  · obtain ⟨spanId, _, h⟩ := outcome_bind_eq_ok_iff.mp h
    cases h
    exact .inl rfl
  split at h
  · cases h
    exact .inl rfl
  split at h
  · cases h
    exact .inl rfl
  split at h
  · cases h
    exact .inl rfl
  split at h
  · cases h
    exact .inl rfl
  · cases h
    exact .inr ⟨_, _, rfl⟩

theorem baggage_eq_empty_of_foldlM {members : List (String × String)} {found last : Members}
    (h : (members.foldlM readMember found).outcome = .ok last) (hlast : last.baggage = ∅) :
    found.baggage = ∅ := by
  induction members generalizing found with
  | nil =>
      cases h
      exact hlast
  | cons member members ih =>
      rw [List.foldlM_cons] at h
      obtain ⟨next, hnext, hrest⟩ := outcome_bind_eq_ok_iff.mp h
      have hempty := ih hrest
      rcases baggage_of_readMember hnext with hsame | ⟨key, value, hinsert⟩
      · rw [← hsame, hempty]
      · rw [hinsert] at hempty
        exact absurd hempty (TextMap.insert_ne_empty found.baggage key value)

theorem ensures_read : (Xray.read settings headers).Ensures
    (·.IsWellFormed .xray (Style.xray.sideData settings headers)) := by
  rw [Xray.read]
  refine ensures_liftM_bind ?_
  split
  · exact ensures_withoutIdentity _ _ _
  · refine ensures_bind fun found hfound => ?_
    dsimp only
    split
    · intro extracted hextracted
      have hwell := ensures_withoutIdentity _ _ _ extracted hextracted
      cases extracted with
      | full context => exact hwell
      | tagsOnly context => exact hwell
      | nothing => exact ⟨hwell.1, baggage_eq_empty_of_foldlM hfound hwell.2.1, hwell.2.2⟩
    · rename_i traceId htrace
      have hzero : traceId.isZero = false := by
        simpa using (Option.filter_eq_some_iff.mp htrace).2
      exact ensures_complete hzero rfl rfl rfl Style.noConfusion _ _

end Xray

theorem TraceContext.ensures_read : (TraceContext.read settings headers).Ensures
    (·.IsWellFormed .traceContext (Style.traceContext.sideData settings headers)) := by
  rw [TraceContext.read]
  refine ensures_liftM_bind ?_
  split
  · exact ensures_withoutIdentity _ _ _
  · refine ensures_bind fun parent hparent => ensures_bind fun _ _ => ensures_bind fun state _ => ?_
    obtain ⟨htrace, hspan⟩ := identified_of_readParent hparent
    refine ensures_complete htrace rfl rfl ?_ (fun _ => hspan) _ _
    exact stateContext_links _ _

end Format

theorem Style.ensures_read? {style : Style} {settings : Settings}
    {read : Headers → Reading Extracted} (h : style.read? settings = some read)
    (headers : Headers) :
    (read headers).Ensures (·.IsWellFormed style (style.sideData settings headers)) := by
  cases style with
  | datadog => cases h; exact Format.Datadog.ensures_read settings headers
  | b3Multi => cases h; exact Format.B3.Multi.ensures_read settings headers
  | b3Single => cases h; exact Format.B3.Single.ensures_read settings headers
  | haystack => cases h; exact Format.Haystack.ensures_read settings headers
  | xray => cases h; exact Format.Xray.ensures_read settings headers
  | traceContext => cases h; exact Format.TraceContext.ensures_read settings headers
  | none => exact absurd h (Option.some_ne_none read).symm

end TraceHeaders
