import TraceHeaders.Chain.Injection
import TraceHeaders.Proofs.Carrier
import TraceHeaders.Proofs.Chain.Notes

namespace TraceHeaders

variable {σ : Type}

/-- What a context is for injectors: only the propagated session may differ from the context of the
caller, and it is that of the span tags if they have one. -/
structure SpanContext.SharesSession (context seen : SpanContext) : Prop where
  others : seen = { context with propagationTags := seen.propagationTags }
  tracestate : seen.propagationTags.tracestate = context.propagationTags.tracestate
  tags : ∀ key, seen.propagationTags.get? key =
    if key = "_dd.p.rsid" then
      (context.tags.get? "session_id").or (context.propagationTags.get? "_dd.p.rsid")
    else context.propagationTags.get? key

namespace SpanContext

theorem sharesSession_withSession (context : SpanContext) :
    context.SharesSession context.withSession := by
  rw [withSession]
  split
  · rename_i session hsession
    have hsession : context.tags.get? "session_id" = some session := hsession
    have htags : (context.propagationTags.setSession session).tags =
        context.propagationTags.tags.insert sessionTag session :=
      PropagationTags.tags_insert (by decide) context.propagationTags session
    refine ⟨rfl, PropagationTags.tracestate_insert _ sessionTag session, fun key => ?_⟩
    rw [hsession, Option.some_or, PropagationTags.get?, htags]
    exact TextMap.get?_insert _ sessionTag session key
  · rename_i hsession
    have hsession : context.tags.get? "session_id" = none := hsession
    refine ⟨rfl, rfl, fun key => ?_⟩
    rw [hsession, Option.none_or]
    split
    · rename_i hkey
      rw [hkey]
    · rfl

theorem baggage_withSession (context : SpanContext) :
    context.withSession.baggage = context.baggage :=
  congrArg (·.baggage) context.sharesSession_withSession.others

theorem SharesSession.eq_of_sharesSession {context seen again : SpanContext}
    (h : context.SharesSession seen) (hagain : seen.SharesSession again) : again = seen := by
  have hspanTags : seen.tags = context.tags := congrArg (·.tags) h.others
  have htags : again.propagationTags = seen.propagationTags := by
    apply PropagationTags.ext_get? _ hagain.tracestate
    intro key
    rw [hagain.tags]
    split
    · rename_i hkey
      rw [hkey, h.tags, if_pos rfl, hspanTags]
      cases context.tags.get? "session_id" <;> rfl
    · rfl
  exact hagain.others.trans (by rw [htags])

theorem withSession_withSession (context : SpanContext) :
    context.withSession.withSession = context.withSession :=
  context.sharesSession_withSession.eq_of_sharesSession
    context.withSession.sharesSession_withSession

end SpanContext

/-- An injector that notes under its position which contexts it is called with. -/
def Injector.noting (numbered : Injector σ × Nat) : Injector (σ × List (Nat × SpanContext)) where
  style := numbered.1.style
  keys := numbered.1.keys
  inject context := (numbered.1.inject context).noting [(numbered.2, context)]

/-- An injector that computes what it writes from the context alone, however it ends. -/
def Injector.IsComputed (injector : Injector σ) : Prop :=
  ∃ writes : SpanContext → List Header, ∀ context state,
    ((injector.inject context).run state).value.1.writes = writes context

theorem Injector.value_write (injector : Injector σ) (context : SpanContext) (state : σ) :
    ((injector.write context).run state).value =
      let answer := ((injector.inject context).run state).value
      (answer.1.writes, answer.2) := by
  simp only [Injector.write, StateT.run_bind, Logged.value_bind]
  generalize ((injector.inject context).run state).value = answer
  obtain ⟨⟨writes, outcome⟩, state⟩ := answer
  rcases outcome with (e | _) | _ <;> rfl

theorem Injector.run_write_noting (injector : Injector σ) (position : Nat) (context : SpanContext)
    (state : σ) (notes : List (Nat × SpanContext)) :
    ((Injector.noting (injector, position)).write context).run (state, notes) =
      withNotes (notes ++ [(position, context)]) <$> (injector.write context).run state := by
  have hinject : ((Injector.noting (injector, position)).inject context).run (state, notes) =
      withNotes (notes ++ [(position, context)]) <$> (injector.inject context).run state := rfl
  simp only [Injector.write, StateT.run_bind]
  rw [hinject, bind_map_left, map_bind]
  apply Logged.bind_congr
  generalize ((injector.inject context).run state).value = answer
  obtain ⟨⟨writes, outcome⟩, state⟩ := answer
  rcases outcome with (e | _) | _ <;> rfl

namespace InjectorChain

/-- Everything that injectors write for a context, each of them in the scratch state that the one
before it left. -/
def written (context : SpanContext) : List (Injector σ) → σ → List Header
  | [], _ => []
  | injector :: rest, state =>
      let answer := ((injector.inject context).run state).value
      answer.1.writes ++ written context rest answer.2

/-- A chain that makes the same calls and notes all of them. -/
def noting (chain : InjectorChain σ) : InjectorChain (σ × List (Nat × SpanContext)) where
  injectors := chain.injectors.zipIdx.map Injector.noting

theorem run_writeAll_cons (context : SpanContext) (injector : Injector σ)
    (rest : List (Injector σ)) (state : σ) :
    (writeAll context (injector :: rest)).run state =
      (injector.write context).run state >>= fun first =>
        Prod.map (first.1 ++ ·) id <$> (writeAll context rest).run first.2 := rfl

theorem written_writeAll (context : SpanContext) (injectors : List (Injector σ)) (state : σ) :
    ((writeAll context injectors).run state).value.1 = written context injectors state := by
  induction injectors generalizing state with
  | nil => rfl
  | cons injector rest ih =>
      rw [run_writeAll_cons, Logged.value_bind, Injector.value_write, written]
      exact congrArg (_ ++ ·) (ih _)

theorem run_writeAll_noting (context : SpanContext) (injectors : List (Injector σ))
    (position : Nat) (state : σ) (notes : List (Nat × SpanContext)) :
    (writeAll context ((injectors.zipIdx position).map Injector.noting)).run (state, notes) =
      withNotes (notes ++ (List.range' position injectors.length).map (·, context)) <$>
        (writeAll context injectors).run state := by
  induction injectors generalizing position state notes with
  | nil => simp [writeAll, withNotes]
  | cons injector rest ih =>
      rw [List.zipIdx_cons, List.map_cons, run_writeAll_cons, Injector.run_write_noting,
        run_writeAll_cons, bind_map_left, map_bind]
      apply Logged.bind_congr
      dsimp only [withNotes]
      rw [ih, List.length_cons, List.range'_succ, List.map_cons, List.append_assoc]
      rfl

theorem written_eq_of_isComputed {injectors : List (Injector σ)}
    (h : ∀ injector ∈ injectors, injector.IsComputed) (context : SpanContext) (state other : σ) :
    written context injectors state = written context injectors other := by
  induction injectors generalizing state other with
  | nil => rfl
  | cons injector rest ih =>
      obtain ⟨hfirst, hrest⟩ := List.forall_mem_cons.mp h
      obtain ⟨writes, hwrites⟩ := hfirst
      simp only [written, hwrites]
      rw [ih hrest]

theorem run_inject (chain : InjectorChain σ) (context : SpanContext) (carrier : Carrier) (state : σ) :
    (chain.inject context carrier).run state =
      Prod.map (fun writes => (context.withSession, carrier.setAll writes)) id <$>
        (writeAll context.withSession chain.injectors).run state := rfl

theorem run_inject_noting (chain : InjectorChain σ) (context : SpanContext) (carrier : Carrier)
    (state : σ) :
    (chain.noting.inject context carrier).run (state, []) =
      withNotes ((List.range chain.injectors.length).map (·, context.withSession)) <$>
        (chain.inject context carrier).run state := by
  rw [run_inject, run_inject, noting, run_writeAll_noting, List.nil_append, List.range_eq_range']
  rfl

/-- What a chain writes: it calls every injector once and in order, whatever becomes of the others, and
with one context in which only the session has been copied.  The carrier takes all that is written,
what was written before a failure or a crash included.  When the injectors compute what they write,
injecting that context again writes the same again and leaves the context as it is. -/
theorem inject_delivers (chain : InjectorChain σ) (context : SpanContext) (carrier : Carrier)
    (state : σ) :
    let run := (chain.inject context carrier).run state
    let seen := run.value.1.1
    let noted := (chain.noting.inject context carrier).run (state, [])
    let writes := written seen chain.injectors state
    context.SharesSession seen ∧
    withoutNotes <$> noted = run ∧
    noted.value.2.2 = (List.range chain.injectors.length).map (·, seen) ∧
    carrier.Took writes run.value.1.2 ∧
    ((∀ injector ∈ chain.injectors, injector.IsComputed) → ∀ later other,
      let again := (chain.inject seen later).run other
      again.value.1.1 = seen ∧ later.Took writes again.value.1.2) := by
  intro run seen noted writes
  have htook (context : SpanContext) (carrier : Carrier) (state : σ) :
      carrier.Took (written context.withSession chain.injectors state)
        ((chain.inject context carrier).run state).value.1.2 := by
    rw [← written_writeAll]
    exact Carrier.took_setAll _ carrier
  have hnoted := run_inject_noting chain context carrier state
  refine ⟨context.sharesSession_withSession, ?_, ?_, htook context carrier state,
    fun hcomputed later other => ?_⟩
  · exact (congrArg (withoutNotes <$> ·) hnoted).trans (withoutNotes_withNotes _ run)
  · exact congrArg (·.value.2.2) hnoted
  · intro again
    have hagain : seen.withSession = seen := context.withSession_withSession
    refine ⟨hagain, ?_⟩
    have hlater := htook seen later other
    rw [hagain, written_eq_of_isComputed hcomputed seen other state] at hlater
    exact hlater

/-- An injector that writes what it computes, ends in one way, and counts its calls. -/
def computing (style : Style) (writes : SpanContext → List Header) (outcome : Except Fault Unit) :
    Injector Nat where
  style := style
  keys := []
  inject context := fun calls => ⟨(⟨writes context, outcome⟩, calls + 1), []⟩

/-- A chain in which one injector crashes, one fails, and all of them write a header of one name. -/
def collidingChain : InjectorChain Nat where
  injectors :=
    [computing .xray (fun _ => [⟨"X-Trace", "1"⟩]) (.error .crashed),
      computing .datadog
        (fun context =>
          [⟨"x-session", (context.propagationTags.session?).getD ""⟩, ⟨"x-trace", "2"⟩])
        (.error (.failed ⟨.inject, "datadog", .stated "cut off", .warn⟩)),
      computing .haystack (fun _ => [⟨"X-TRACE", "3"⟩]) (.ok ())]

def collidingWrites : List Header :=
  [⟨"X-Trace", "1"⟩, ⟨"x-session", "s7"⟩, ⟨"x-trace", "2"⟩, ⟨"X-TRACE", "3"⟩]

theorem isComputed_collidingChain : ∀ injector ∈ collidingChain.injectors, injector.IsComputed := by
  intro injector hinjector
  simp only [collidingChain, List.mem_cons, List.not_mem_nil, or_false] at hinjector
  rcases hinjector with rfl | rfl | rfl <;> exact ⟨_, fun _ _ => rfl⟩

theorem inject_delivers_colliding :
    let run := (collidingChain.inject { tags := .ofList [("session_id", "s7")] } (.list [])).run 0
    let held : Carrier := .map (.ofList [("x-trace", "0"), ("X-Trace", "00")])
    (∀ injector ∈ collidingChain.injectors, injector.IsComputed) ∧
    run.value.1.2 = .list collidingWrites ∧
    held.Took collidingWrites ((collidingChain.inject run.value.1.1 held).run 3).value.1.2 := by
  intro run held
  have hwritten : written run.value.1.1 collidingChain.injectors 0 = collidingWrites := by
    decide +kernel
  obtain ⟨_, _, _, _, hagain⟩ :=
    inject_delivers collidingChain { tags := .ofList [("session_id", "s7")] } (.list []) 0
  have hlater := (hagain isComputed_collidingChain held 3).2
  rw [hwritten] at hlater
  exact ⟨isComputed_collidingChain, by decide +kernel, hlater⟩

end InjectorChain

end TraceHeaders
