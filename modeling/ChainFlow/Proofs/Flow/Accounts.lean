import ChainFlow.Proofs.Flow.Visits

/-!
# What visits account for

The visits of a run, and those of a dry run, are the steps that it begins, and account for all that is
sent: nothing is sent for anything but a step. They account for the outcomes and the quotes as well,
except that a run may end with the outcome of a fault that belongs to no step.
-/

namespace ChainFlow.Engine

variable {σ : Type} (engine : Engine σ)

theorem performs_of_taken {visit : Visit σ Outcome} (isSound : visit.step.IsSound)
    (taken : visit = Visit.of engine.performStepSafely visit.step visit.location visit.before) :
    engine.Performs visit.step visit.location visit.before (visit.results, visit.after) := by
  have same : (visit.results, visit.after) =
      engine.performStepSafely visit.step visit.location visit.before :=
    congrArg (fun visit => (visit.results, visit.after)) taken
  rw [same]
  exact performs_performStepSafely isSound _ _

theorem sent_of_performed {visit : Visit σ Outcome} (isSound : visit.step.IsSound)
    (taken : visit = Visit.of engine.performStepSafely visit.step visit.location visit.before) :
    visit.sent = engine.callsIn .perform visit.step visit.location visit.before :=
  Visit.sent_eq (engine.performs_of_taken isSound taken).calls_eq

theorem sent_of_quoted {visit : Visit σ Quote}
    (taken : visit = Visit.of engine.quoteStepSafely visit.step visit.location visit.before) :
    visit.sent = engine.callsIn .quote visit.step visit.location visit.before := by
  refine Visit.sent_eq ((congrArg (·.after.calls) taken).trans ?_)
  exact engine.quoteStepSafely_calls _ _ _

theorem begun_of_touches {before after : World σ}
    (touches : Relation.ReflTransGen (Touch engine) before after) :
    Trace.begun after.journal = Trace.begun before.journal := by
  obtain ⟨outside, journal, isOutside⟩ := journal_of_touches touches
  have quiet := Trace.quiet_of_isQuiet fun event member =>
    Event.isQuiet_of_isOutside (isOutside event member)
  rw [journal, Trace.begun_append, quiet.1, List.append_nil]

/-- All that a run does and tells belongs to its visits, but for a fault of its own. -/
structure Accounts (visits : List (Visit σ Outcome)) (world : World σ) (result : FlowRun × World σ) :
    Prop where
  taken : ∀ visit ∈ visits, visit.step.IsSound ∧
    visit = Visit.of engine.performStepSafely visit.step visit.location visit.before
  begun_eq : Trace.begun result.2.journal = Trace.begun world.journal ++ visits.map (·.step.ids)
  calls_eq : result.2.calls = world.calls ++ visits.flatMap Visit.sent
  issued_eq : (∀ visit ∈ visits, visit.after.issued = visit.before.issued) →
    result.2.issued = world.issued
  told : ∀ outcome ∈ result.1.outcomes, (∃ visit ∈ visits, outcome ∈ visit.results) ∨
    ∃ fault now, outcome = FlowRun.faultOutcome fault now

theorem Recounts.accounts {plan : Plan} {location : Location} {run : FlowRun} {world : World σ}
    {visits : List (Visit σ Outcome)} {result : FlowRun × World σ}
    (recounts : engine.Recounts plan location run world visits result) (empty : run.outcomes = []) :
    engine.Accounts visits world result where
  taken := recounts.tour.taken
  begun_eq := recounts.tour.begun_eq fun visit member => by
    rw [(recounts.tour.taken visit member).2]
    exact engine.begun_of_touches (engine.touches_performStepSafely _ _ _)
  calls_eq := recounts.tour.calls_eq fun visit member => by
    obtain ⟨isSound, taken⟩ := recounts.tour.taken visit member
    exact ⟨_, (engine.performs_of_taken isSound taken).calls_eq.symm⟩
  issued_eq := recounts.tour.issued_eq
  told outcome member := (recounts.told outcome member).resolve_left (by simp [empty])

theorem accounts_performFlow (delay : Int) (observer : Option Observer) (nodes : List Node)
    (edges : List Edge) (world : World σ) :
    engine.Accounts (engine.performFlowVisits delay observer nodes edges world).1 world
      (engine.performFlow delay observer nodes edges world) := by
  cases runnable : Graph.requireRunnable nodes with
  | ok found => exact (engine.recounts_performFlow runnable delay observer edges world).accounts _ rfl
  | error cause =>
      have idle := idle_abort (FlowRun.start world.clock) (.unrunnable cause) world
      simp only [performFlowVisits, performFlow, runnable]
      constructor
      · simp
      · rw [idle.begun_eq, List.map_nil, List.append_nil]
      · rw [idle.calls_eq, List.flatMap_nil, List.append_nil]
      · exact fun _ => idle.issued_eq
      · exact fun outcome member => .inr ⟨_, _, List.mem_singleton.mp member⟩

/-- All that a dry run does and tells belongs to its visits. -/
structure Inspects (visits : List (Visit σ Quote)) (world : World σ)
    (result : Except Fault FlowQuote × World σ) : Prop where
  taken : ∀ visit ∈ visits, visit.step.IsSound ∧
    visit = Visit.of engine.quoteStepSafely visit.step visit.location visit.before
  begun_eq : Trace.begun result.2.journal = Trace.begun world.journal ++ visits.map (·.step.ids)
  calls_eq : result.2.calls = world.calls ++ visits.flatMap Visit.sent
  quotes_eq : ∀ quote, result.1 = .ok quote → quote.quotes = visits.flatMap (·.results)

theorem inspects_quoteFlow (rate : Binary64) (nodes : List Node) (edges : List Edge)
    (world : World σ) :
    engine.Inspects (engine.quoteFlowVisits rate nodes edges world).1 world
      (engine.quoteFlow rate nodes edges world) := by
  cases runnable : Graph.requireRunnable nodes with
  | ok found =>
      obtain ⟨tour, quotes_eq⟩ := engine.tour_quoteFlow runnable rate edges world
      refine ⟨tour.taken, tour.begun_eq fun visit member => ?_, tour.calls_eq fun visit member => ?_,
        quotes_eq⟩
      · rw [(tour.taken visit member).2]
        exact engine.begun_of_touches (engine.touches_quoteStepSafely _ _ _)
      · rw [(tour.taken visit member).2]
        exact ⟨_, (engine.quoteStepSafely_calls _ _ _).symm⟩
  | error cause =>
      simp only [quoteFlowVisits, quoteFlow, runnable]
      exact ⟨by simp, by simp, by simp, by rintro quote ⟨⟩⟩

end ChainFlow.Engine
