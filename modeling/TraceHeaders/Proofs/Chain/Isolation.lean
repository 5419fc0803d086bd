import Mathlib.Data.List.Basic
import Mathlib.Data.List.Induction
import TraceHeaders.Proofs.Chain.Notes
import TraceHeaders.Proofs.Chain.Reconciliation

namespace TraceHeaders

variable {σ : Type}

/-- What a chain makes use of: the carrier, or the extractor at a position. -/
inductive Visit where
  | carrier
  | extractor (position : Nat)
  deriving DecidableEq

/-- An extractor that notes its calls under its position. -/
def Extractor.noting (numbered : Extractor σ × Nat) : Extractor (σ × List Visit) where
  style := numbered.1.style
  extract headers := (numbered.1.extract headers).noting [.extractor numbered.2]
  cleanup := numbered.1.cleanup.noting []

/-- What an extractor does when it is asked. -/
structure Answer where
  style : Style
  outcome : Except Fault Extracted
  records : List Log.Record

/-- What a chain writes to the log about an outcome: nothing when there is an answer, a failure at its
own severity, and a crash first as such and then as a failure. -/
def Extracted.report (style : Style) : Except Fault Extracted → List Log.Record
  | .ok _ => []
  | .error (.failed e) => [⟨e.level, e.message⟩]
  | .error .crashed =>
      [⟨.error, "Panic caught Any \x7b .. \x7d"⟩,
        ⟨.error, "Cannot extract from " ++ style.name ++ ", codec panicked"⟩]

/-- Everything that is written to the log when an extractor is asked: its own records come first. -/
def Answer.written (answer : Answer) : List Log.Record :=
  answer.records ++ Extracted.report answer.style answer.outcome

theorem CodecError.message_crashed (style : Style) :
    (CodecError.crashed .extract style).message =
      "Cannot extract from " ++ style.name ++ ", codec panicked" := by
  cases style <;> rfl

theorem Extractor.run_ask (extractor : Extractor σ) (headers : Headers) (state : σ) :
    (extractor.ask headers).run state =
      let answer := (extractor.extract headers).run state
      ⟨(Extracted.ofOutcome answer.value.1, answer.value.2),
        answer.records ++ Extracted.report extractor.style answer.value.1⟩ := by
  simp only [Extractor.ask, StateT.run_bind]
  generalize (extractor.extract headers).run state = answer
  obtain ⟨⟨outcome, state⟩, records⟩ := answer
  rcases outcome with (e | _) | extracted
  · rfl
  · rw [Extracted.report, ← CodecError.message_crashed]
    rfl
  · rfl

namespace ExtractorChain

/-- The answers of extractors, each of them asked in the scratch state that the one before it left. -/
def answers (headers : Headers) : List (Extractor σ) → σ → List Answer
  | [], _ => []
  | extractor :: rest, state =>
      let answer := (extractor.extract headers).run state
      ⟨extractor.style, answer.value.1, answer.records⟩ :: answers headers rest answer.value.2

theorem length_answers (headers : Headers) (extractors : List (Extractor σ)) (state : σ) :
    (answers headers extractors state).length = extractors.length := by
  induction extractors generalizing state with
  | nil => rfl
  | cons extractor rest ih => rw [answers, List.length_cons, ih, List.length_cons]

/-- Whether a search ends with what was found. -/
def ends (stopsAtFirst : Bool) (extracted : Extracted) : Bool :=
  stopsAtFirst && extracted.full?.isSome

theorem ends_iff {stopsAtFirst : Bool} {outcome : Except Fault Extracted} :
    ends stopsAtFirst (.ofOutcome outcome) = true ↔
      stopsAtFirst = true ∧ ∃ context, outcome = .ok (.full context) := by
  rw [ends, Bool.and_eq_true]
  refine and_congr_right fun _ => ?_
  rcases outcome with fault | extracted
  · simp [Extracted.ofOutcome, Extracted.full?]
  · cases extracted <;> simp [Extracted.ofOutcome, Extracted.full?]

/-- How many extractors are asked: all of them, or those up to the first one with which the search
ends. -/
def asked (stopsAtFirst : Bool) : List Answer → Nat
  | [] => 0
  | answer :: rest =>
      if ends stopsAtFirst (.ofOutcome answer.outcome) then 1
      else asked stopsAtFirst rest + 1

theorem asked_cons_of_ends {stopsAtFirst : Bool} {answer : Answer}
    (h : ends stopsAtFirst (.ofOutcome answer.outcome) = true) (rest : List Answer) :
    asked stopsAtFirst (answer :: rest) = 1 := if_pos h

theorem asked_cons_of_not_ends {stopsAtFirst : Bool} {answer : Answer}
    (h : ¬ ends stopsAtFirst (.ofOutcome answer.outcome) = true) (rest : List Answer) :
    asked stopsAtFirst (answer :: rest) = asked stopsAtFirst rest + 1 := if_neg h

/-- A chain that makes the same calls and notes all of them. -/
def noting (chain : ExtractorChain σ) : ExtractorChain (σ × List Visit) where
  extractors := chain.extractors.zipIdx.map Extractor.noting
  stopsAtFirst := chain.stopsAtFirst

/-- An extractor is asked unless one before it has found a full context and the search stops there. -/
theorem lt_asked_iff {stopsAtFirst : Bool} {answers : List Answer} {position : Nat} :
    position < asked stopsAtFirst answers ↔ position < answers.length ∧
      (stopsAtFirst = true → ∀ answer ∈ answers.take position, ∀ context,
        answer.outcome ≠ .ok (.full context)) := by
  induction answers generalizing position with
  | nil => simp [asked]
  | cons answer rest ih =>
      cases position with
      | zero =>
          have hasked : 0 < asked stopsAtFirst (answer :: rest) := by
            rw [asked]
            split <;> exact Nat.succ_pos _
          simpa using hasked
      | succ position =>
          rw [List.length_cons, List.take_succ_cons, List.forall_mem_cons, Nat.succ_lt_succ_iff]
          by_cases hends : ends stopsAtFirst (.ofOutcome answer.outcome) = true
          · rw [asked_cons_of_ends hends]
            obtain ⟨hstops, context, hcontext⟩ := ends_iff.mp hends
            refine ⟨fun hlt => absurd hlt (by omega), fun ⟨_, hnone⟩ => ?_⟩
            exact absurd hcontext ((hnone hstops).1 context)
          · have hgoes : stopsAtFirst = true → ∀ context, answer.outcome ≠ .ok (.full context) :=
              fun hstops context hcontext => hends (ends_iff.mpr ⟨hstops, context, hcontext⟩)
            rw [asked_cons_of_not_ends hends, Nat.succ_lt_succ_iff, ih]
            refine and_congr_right fun _ => ⟨fun h hstops => ⟨hgoes hstops, h hstops⟩,
              fun h hstops => (h hstops).2⟩

theorem isSome_canonical_add {stopsAtFirst : Bool} {found : Findings} (extracted : Extracted)
    (hfound : stopsAtFirst = true → found.canonical = none) :
    (stopsAtFirst && (found.add extracted).canonical.isSome) = ends stopsAtFirst extracted := by
  cases stopsAtFirst with
  | false => rfl
  | true => cases extracted <;> simp [ends, Findings.add, Extracted.full?, hfound rfl]

theorem canonical_add {stopsAtFirst : Bool} {found : Findings} {extracted : Extracted}
    (hfound : stopsAtFirst = true → found.canonical = none)
    (hgoes : ¬ ends stopsAtFirst extracted = true) :
    stopsAtFirst = true → (found.add extracted).canonical = none := by
  rintro rfl
  rw [← isSome_canonical_add extracted hfound, Bool.true_and, Bool.not_eq_true,
    Option.isSome_eq_false_iff, Option.isNone_iff_eq_none] at hgoes
  exact hgoes

/-- A step of the search, with everything that it does. -/
theorem run_askAll_cons {stopsAtFirst : Bool} {found : Findings}
    (hfound : stopsAtFirst = true → found.canonical = none) (headers : Headers)
    (extractor : Extractor σ) (rest : List (Extractor σ)) (state : σ) :
    (askAll stopsAtFirst headers found (extractor :: rest)).run state =
      (extractor.ask headers).run state >>= fun answer =>
        if ends stopsAtFirst answer.1 then pure (found.add answer.1, answer.2)
        else (askAll stopsAtFirst headers (found.add answer.1) rest).run answer.2 := by
  rw [askAll, StateT.run_bind]
  congr 1
  funext answer
  rw [← isSome_canonical_add answer.1 hfound]
  dsimp only
  split <;> rfl

theorem run_ask_noting (extractor : Extractor σ) (headers : Headers) (position : Nat) (state : σ)
    (visits : List Visit) :
    ((Extractor.noting (extractor, position)).ask headers).run (state, visits) =
      withNotes (visits ++ [.extractor position]) <$> (extractor.ask headers).run state := by
  rw [Extractor.run_ask, Extractor.run_ask]
  have hextract : ((Extractor.noting (extractor, position)).extract headers).run (state, visits) =
      withNotes (visits ++ [.extractor position]) <$> (extractor.extract headers).run state := rfl
  rw [hextract]
  refine Logged.eq_of_parts rfl ?_
  rw [Logged.records_map]
  exact congrArg (· ++ _) (Logged.records_map _ _)

theorem run_askAll_noting {stopsAtFirst : Bool} {found : Findings}
    (hfound : stopsAtFirst = true → found.canonical = none) (headers : Headers)
    (extractors : List (Extractor σ)) (position : Nat) (state : σ) (visits : List Visit) :
    (askAll stopsAtFirst headers found ((extractors.zipIdx position).map Extractor.noting)).run
        (state, visits) =
      withNotes (visits ++ (List.range' position
          (asked stopsAtFirst (answers headers extractors state))).map .extractor) <$>
        (askAll stopsAtFirst headers found extractors).run state := by
  induction extractors generalizing found position state visits with
  | nil => simp [askAll, answers, asked, withNotes]
  | cons extractor rest ih =>
      rw [List.zipIdx_cons, List.map_cons, run_askAll_cons hfound, run_ask_noting,
        run_askAll_cons hfound, bind_map_left, map_bind]
      apply Logged.bind_congr
      simp only [Extractor.run_ask, answers, withNotes]
      generalize (extractor.extract headers).run state = answer
      by_cases hends : ends stopsAtFirst (.ofOutcome answer.value.1) = true
      · rw [if_pos hends, if_pos hends, asked_cons_of_ends hends]
        rfl
      · rw [if_neg hends, if_neg hends, asked_cons_of_not_ends hends,
          ih (canonical_add hfound hends), List.range'_succ, List.map_cons, List.append_assoc]
        rfl

theorem records_askAll {stopsAtFirst : Bool} {found : Findings}
    (hfound : stopsAtFirst = true → found.canonical = none) (headers : Headers)
    (extractors : List (Extractor σ)) (state : σ) :
    ((askAll stopsAtFirst headers found extractors).run state).records =
      ((answers headers extractors state).take
        (asked stopsAtFirst (answers headers extractors state))).flatMap Answer.written := by
  induction extractors generalizing found state with
  | nil => rfl
  | cons extractor rest ih =>
      rw [run_askAll_cons hfound, Logged.records_bind]
      simp only [Extractor.run_ask, answers]
      generalize (extractor.extract headers).run state = answer
      by_cases hends : ends stopsAtFirst (.ofOutcome answer.value.1) = true
      · rw [if_pos hends, asked_cons_of_ends hends]
        rfl
      · rw [if_neg hends, asked_cons_of_not_ends hends, ih (canonical_add hfound hends),
          List.take_succ_cons, List.flatMap_cons]
        rfl

theorem isEmpty_noting (chain : ExtractorChain σ) : chain.noting.isEmpty = chain.isEmpty := by
  obtain ⟨extractors, stopsAtFirst⟩ := chain
  cases extractors <;> rfl

section Extract

variable (chain : ExtractorChain σ) (carrier : Action σ Headers) (state : σ)

theorem run_extract_of_isEmpty (h : chain.isEmpty = true) :
    (chain.extract carrier).run state = pure (.nothing, state) := by
  rw [extract, h]
  rfl

theorem run_extract (h : chain.isEmpty = false) :
    (chain.extract carrier).run state = carrier.run state >>= fun read =>
      Prod.map Findings.result id <$>
        (askAll chain.stopsAtFirst read.1 {} chain.extractors).run read.2 := by
  rw [extract, h]
  rfl

theorem run_extract_noting (h : chain.isEmpty = false) :
    (chain.noting.extract (carrier.noting [.carrier])).run (state, []) =
      withNotes (.carrier :: (List.range (asked chain.stopsAtFirst
          (answers (carrier.run state).value.1 chain.extractors (carrier.run state).value.2))).map
            .extractor) <$> (chain.extract carrier).run state := by
  rw [run_extract _ _ _ (chain.isEmpty_noting.trans h), run_extract _ _ _ h, Action.run_noting,
    bind_map_left, map_bind]
  apply Logged.bind_congr
  dsimp only [withNotes, noting, List.nil_append]
  rw [run_askAll_noting fun _ => rfl, List.range_eq_range']
  rfl

theorem records_extract (h : chain.isEmpty = false) :
    let answers := answers (carrier.run state).value.1 chain.extractors (carrier.run state).value.2
    ((chain.extract carrier).run state).records = (carrier.run state).records ++
      (answers.take (asked chain.stopsAtFirst answers)).flatMap Answer.written := by
  rw [run_extract _ _ _ h, Logged.records_bind, Logged.records_map, records_askAll fun _ => rfl]

end Extract

/-- How an extractor ends that is asked in a scratch state. -/
def outcomeIn (headers : Headers) (state : σ) (extractor : Extractor σ) : Except Fault Extracted :=
  ((extractor.extract headers).run state).value.1

/-- The scratch state after all extractors were asked. -/
def stateAfter (headers : Headers) : List (Extractor σ) → σ → σ
  | [], state => state
  | extractor :: rest, state =>
      stateAfter headers rest ((extractor.extract headers).run state).value.2

/-- Extractors that do not reach each other through the scratch state: an extractor ends as it would
if it were asked at once, whichever of those before it are asked. -/
def Independent (headers : Headers) (extractors : List (Extractor σ)) (state : σ) : Prop :=
  ∀ earlier extractor, (earlier ++ [extractor]).Sublist extractors →
    outcomeIn headers (stateAfter headers earlier state) extractor =
      outcomeIn headers state extractor

theorem outcomes_append (headers : Headers) (extractors others : List (Extractor σ)) (state : σ) :
    outcomes headers (extractors ++ others) state =
      outcomes headers extractors state ++
        outcomes headers others (stateAfter headers extractors state) := by
  induction extractors generalizing state with
  | nil => rfl
  | cons extractor rest ih =>
      rw [List.cons_append, outcomes, outcomes, stateAfter, ih, List.cons_append]

theorem Independent.outcomes_eq {headers : Headers} {extractors chosen : List (Extractor σ)}
    {state : σ} (h : Independent headers extractors state) (hchosen : chosen.Sublist extractors) :
    outcomes headers chosen state = chosen.map (outcomeIn headers state) := by
  induction chosen using List.reverseRecOn with
  | nil => rfl
  | append_singleton earlier extractor ih =>
      have hearlier := (List.sublist_append_left earlier [extractor]).trans hchosen
      rw [outcomes_append, ih hearlier, List.map_append, List.map_singleton,
        ← h earlier extractor hchosen]
      rfl

theorem counted_filter_isOk (stopsAtFirst : Bool) (outcomes : List (Except Fault Extracted)) :
    counted stopsAtFirst (outcomes.filter Except.isOk) =
      (counted stopsAtFirst outcomes).filter Except.isOk := by
  cases stopsAtFirst with
  | false => rfl
  | true =>
      rw [counted, counted, if_pos rfl, if_pos rfl]
      induction outcomes with
      | nil => rfl
      | cons outcome rest ih =>
          rcases outcome with fault | extracted
          · exact ih
          · have hok : Except.isOk (.ok extracted : Except Fault Extracted) = true := rfl
            rw [List.filter_cons_of_pos hok, throughFirstFull, throughFirstFull]
            split
            · rfl
            · rw [List.filter_cons_of_pos hok, ih]

end ExtractorChain

theorem Extracted.resolve_filter_isOk (outcomes : List (Except Fault Extracted)) :
    resolve (outcomes.filter Except.isOk) = resolve outcomes := by
  have hanswers {α : Type} {answer? : Except Fault Extracted → Option α}
      (hfault : ∀ fault, answer? (.error fault) = none) :
      (outcomes.filter Except.isOk).filterMap answer? = outcomes.filterMap answer? := by
    rw [List.filterMap_filter]
    refine List.filterMap_congr fun outcome _ => ?_
    rcases outcome with fault | extracted
    · exact (hfault fault).symm
    · rfl
  rw [resolve, resolve, hanswers fun _ => rfl, ← List.head?_filterMap, hanswers fun _ => rfl,
    List.head?_filterMap]

namespace ExtractorChain

/-- The chain without the extractors that fail or crash. -/
def withoutFailing (headers : Headers) (state : σ) (chain : ExtractorChain σ) :
    ExtractorChain σ where
  extractors := chain.extractors.filter fun extractor => (outcomeIn headers state extractor).isOk
  stopsAtFirst := chain.stopsAtFirst

theorem value_extract_withoutFailing (chain : ExtractorChain σ) (carrier : Action σ Headers)
    (state : σ) :
    let read := (carrier.run state).value
    Independent read.1 chain.extractors read.2 →
      (((chain.withoutFailing read.1 read.2).extract carrier).run state).value.1 =
        ((chain.extract carrier).run state).value.1 := by
  intro read h
  rw [value_extract, value_extract]
  dsimp only [withoutFailing]
  rw [h.outcomes_eq List.filter_sublist, h.outcomes_eq (List.Sublist.refl chain.extractors)]
  have hmap : (chain.extractors.filter fun extractor =>
      (outcomeIn read.1 read.2 extractor).isOk).map (outcomeIn read.1 read.2) =
      (chain.extractors.map (outcomeIn read.1 read.2)).filter Except.isOk := by
    rw [List.filter_map]
    rfl
  rw [hmap, counted_filter_isOk, Extracted.resolve_filter_isOk]

/-- An extractor that fails or crashes does not affect the others.  The carrier is read once if there
is anybody to ask, every extractor is asked once unless an earlier one has found a full context and
the search stops there, each of them leaves its records in the log in its turn, and the result is that
of the extractors that have an answer. -/
theorem extract_isolates (chain : ExtractorChain σ) (carrier : Action σ Headers) (state : σ) :
    let read := carrier.run state
    let answers := answers read.value.1 chain.extractors read.value.2
    let run := (chain.extract carrier).run state
    let noted := (chain.noting.extract (carrier.noting [.carrier])).run (state, [])
    withoutNotes <$> noted = run ∧
    (chain.isEmpty = true → noted.value.2.2 = [] ∧ run.records = []) ∧
    (chain.isEmpty = false → ∃ asked,
      (∀ position, position < asked ↔ position < chain.extractors.length ∧
        (chain.stopsAtFirst = true → ∀ answer ∈ answers.take position, ∀ context,
          answer.outcome ≠ .ok (.full context))) ∧
      noted.value.2.2 = .carrier :: (List.range asked).map .extractor ∧
      run.records = read.records ++ (answers.take asked).flatMap Answer.written) ∧
    (Independent read.value.1 chain.extractors read.value.2 →
      (((chain.withoutFailing read.value.1 read.value.2).extract carrier).run state).value.1 =
        run.value.1) := by
  intro read answers run noted
  cases hempty : chain.isEmpty with
  | true =>
      have hrun : run = pure (.nothing, state) := run_extract_of_isEmpty _ _ _ hempty
      have hnoted : noted = pure (.nothing, state, []) :=
        run_extract_of_isEmpty _ _ _ (chain.isEmpty_noting.trans hempty)
      rw [hrun, hnoted]
      refine ⟨rfl, fun _ => ⟨rfl, rfl⟩, fun h => absurd h Bool.noConfusion, fun h => ?_⟩
      exact (chain.value_extract_withoutFailing carrier state h).trans (congrArg (·.value.1) hrun)
  | false =>
      have hnoted := run_extract_noting chain carrier state hempty
      refine ⟨?_, fun h => absurd h Bool.noConfusion, fun _ => ?_,
        chain.value_extract_withoutFailing carrier state⟩
      · exact (congrArg (withoutNotes <$> ·) hnoted).trans (withoutNotes_withNotes _ run)
      · refine ⟨asked chain.stopsAtFirst answers, fun position => ?_, congrArg (·.value.2.2) hnoted,
          records_extract _ _ _ hempty⟩
        rw [lt_asked_iff, length_answers]

theorem independent_of_settled {headers : Headers} {extractors : List (Extractor Nat)} {calls : Nat}
    (h : ∀ extractor ∈ extractors, ∃ style outcome records,
      extractor = settled style outcome records) : Independent headers extractors calls := by
  intro earlier extractor hsublist
  have hmem : extractor ∈ extractors := hsublist.subset (by simp)
  obtain ⟨style, outcome, records, rfl⟩ := h extractor hmem
  rfl

/-- A chain in which one extractor fails, one crashes, and the last one is not asked. -/
def mixedChain : ExtractorChain Nat where
  extractors :=
    [settled .datadog (.error (.failed (.unreadable .datadog (.undecodable .traceId))))
        [⟨.warn, "odd tags"⟩],
      settled .b3Multi (.ok (.tagsOnly { origin := some "rum" })) [],
      settled .xray (.error .crashed) [⟨.debug, "odd root"⟩],
      settled .traceContext (.ok (.full { spanId := 2, style := some .traceContext })) [],
      settled .haystack (.error .crashed) []]
  stopsAtFirst := true

theorem extract_isolates_mixed :
    let run := (mixedChain.extract (pure ⟨[]⟩)).run 0
    Independent ⟨[]⟩ mixedChain.extractors 0 ∧
    ((mixedChain.noting.extract (Action.noting [.carrier] (pure ⟨[]⟩))).run (0, [])).value.2.2 =
      [.carrier, .extractor 0, .extractor 1, .extractor 2, .extractor 3] ∧
    run.records = [⟨.warn, "odd tags"⟩,
      ⟨.debug, "Cannot extract from datadog, Failed to decode `trace_id`"⟩,
      ⟨.debug, "odd root"⟩, ⟨.error, "Panic caught Any { .. }"⟩,
      ⟨.error, "Cannot extract from xray, codec panicked"⟩] ∧
    (((mixedChain.withoutFailing ⟨[]⟩ 0).extract (pure ⟨[]⟩)).run 0).value.1 = run.value.1 := by
  have hindependent : Independent ⟨[]⟩ mixedChain.extractors 0 := by
    apply independent_of_settled
    intro extractor hextractor
    simp only [mixedChain, List.mem_cons, List.not_mem_nil, or_false] at hextractor
    rcases hextractor with rfl | rfl | rfl | rfl | rfl <;> exact ⟨_, _, _, rfl⟩
  refine ⟨hindependent, by decide +kernel, by decide +kernel, ?_⟩
  exact (extract_isolates mixedChain (pure ⟨[]⟩) 0).2.2.2 hindependent

end ExtractorChain

end TraceHeaders
