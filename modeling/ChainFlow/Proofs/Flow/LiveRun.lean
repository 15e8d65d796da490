import ChainFlow.Flow.LiveRun
import ChainFlow.Proofs.Flow.Trace
import ChainFlow.Proofs.Graph.Walk

/-!
# The course of a run

`Told` says what recording the outcomes of a step comes to, with an observer who may stop the run.
`Engine.Course` says how a run goes on from some point, by the ways in which a step may end it or not.
The steps that `performSteps` takes are such a course, and there are enough of them to come to an end
of the plan; so what holds of a run is shown by induction on its course.
-/

namespace ChainFlow

variable {σ : Type}

/-! ## Telling an observer -/

/-- What telling an observer of some outcomes comes to: those up to the one at which it stops the
run, all of them if it does not. -/
structure Told (run : FlowRun) (outcomes : List Outcome) (world : World σ)
    (answer : Option Fault × FlowRun × World σ) (told : List Outcome) (reports : List Event) : Prop where
  journal : answer.2.2.journal = world.journal ++ reports
  outcomes_eq : answer.2.1.outcomes = run.outcomes ++ told
  recorded_eq : Trace.recorded reports = told
  isReport : ∀ event ∈ reports, event.isReport = true
  told_initial : told <+: outcomes
  all : answer.1 = none → told = outcomes
  backend_eq : answer.2.2.backend = world.backend
  issued_eq : answer.2.2.issued = world.issued

theorem told_recordAll (observer : Option Observer) (run : FlowRun) (outcomes : List Outcome)
    (world : World σ) : ∃ told reports,
      Told run outcomes world (FlowRun.recordAll observer run outcomes world) told reports := by
  induction outcomes generalizing run world with
  | nil =>
      refine ⟨[], [], ?_, ?_, rfl, by simp, List.prefix_refl _, fun _ => rfl, rfl, rfl⟩ <;>
        simp [FlowRun.recordAll]
  | cons outcome outcomes ih =>
      -- An observer adds an event of its own to that of the record.
      have first : ∃ reports, Told run [outcome] world
          (FlowRun.recordFor observer (run.begin outcome.node) outcome world) [outcome] reports := by
        cases observer with
        | none =>
            refine ⟨[.recorded outcome], rfl, rfl, rfl, ?_, List.prefix_refl _, fun _ => rfl, rfl, rfl⟩
            simp [Event.isReport]
        | some observer =>
            refine ⟨[.recorded outcome, .notified outcome], ?_, rfl, rfl, ?_, List.prefix_refl _,
              fun _ => rfl, rfl, rfl⟩
            · simp [FlowRun.recordFor, World.log]
            · simp [Event.isReport]
      obtain ⟨reports, head⟩ := first
      unfold FlowRun.recordAll
      rcases answer : FlowRun.recordFor observer (run.begin outcome.node) outcome world with
        ⟨_ | fault, run', world'⟩
      · rw [answer] at head
        obtain ⟨told, more, tail⟩ := ih run' world'
        refine ⟨outcome :: told, reports ++ more, ?_, ?_, ?_, ?_, ?_, ?_,
          tail.backend_eq.trans head.backend_eq, tail.issued_eq.trans head.issued_eq⟩
        · rw [tail.journal, head.journal, List.append_assoc]
        · rw [tail.outcomes_eq, head.outcomes_eq, List.append_assoc, List.singleton_append]
        · rw [Trace.recorded_append, head.recorded_eq, tail.recorded_eq, List.singleton_append]
        · intro event member
          exact (List.mem_append.mp member).elim (head.isReport event) (tail.isReport event)
        · exact List.cons_prefix_cons.mpr ⟨rfl, tail.told_initial⟩
        · intro finished
          rw [tail.all finished]
      · rw [answer] at head
        refine ⟨[outcome], reports, head.journal, head.outcomes_eq, head.recorded_eq, head.isReport,
          List.cons_prefix_cons.mpr ⟨rfl, List.nil_prefix⟩, ?_, head.backend_eq, head.issued_eq⟩
        rintro ⟨⟩

/-! ## Step by step -/

namespace Engine

theorem pace_journal (delay : Int) (first : Bool) (world : World σ) :
    ∃ pauses, (pace delay first world).journal = world.journal ++ pauses ∧
      ∀ event ∈ pauses, event = .paused (.pacing delay) := by
  unfold pace
  split
  · exact ⟨[], by simp, by simp⟩
  · exact ⟨[.paused (.pacing delay)], rfl, by simp⟩

theorem pace_backend (delay : Int) (first : Bool) (world : World σ) :
    (pace delay first world).backend = world.backend := by
  unfold pace
  split <;> rfl

variable (engine : Engine σ) (delay : Int) (observer : Option Observer)

def opened (first : Bool) (step : FlowStep) (world : World σ) : World σ :=
  (pace delay first (engine.probe world).2).log (.began step.ids)

def performedStep (first : Bool) (step : FlowStep) (location : Location) (world : World σ) :
    List Outcome × World σ :=
  engine.performStepSafely step location (engine.opened delay first step world)

def recordedStep (first : Bool) (step : FlowStep) (location : Location) (run : FlowRun)
    (world : World σ) : Option Fault × FlowRun × World σ :=
  let performed := engine.performedStep delay first step location world
  FlowRun.recordAll observer (run.begin step.first.id) performed.1 performed.2

inductive Course : Bool → Plan → Location → FlowRun → World σ → FlowRun × World σ → Prop
  | exhausted {first : Bool} {plan after : Plan} {location : Location} {run : FlowRun}
      {world : World σ} :
      plan.next (engine.probe world).1 = (.ok none, after) → plan.rest.filter Node.isAction = [] →
      Course first plan location run world
        (run.finish .completed (engine.probe world).2.clock, (engine.probe world).2)
  | aborted {first : Bool} {plan handed done : Plan} {step : FlowStep} {location : Location}
      {run run' : FlowRun} {world world' : World σ} {fault : Fault} :
      plan.Steps (engine.probe world).1 step handed done →
      engine.recordedStep delay observer first step location run world = (some fault, run', world') →
      Course first plan location run world (run'.abortIn fault world')
  | failed {first : Bool} {plan handed done : Plan} {step : FlowStep} {location : Location}
      {run run' : FlowRun} {world world' : World σ} :
      plan.Steps (engine.probe world).1 step handed done →
      engine.recordedStep delay observer first step location run world = (none, run', world') →
      (engine.performedStep delay first step location world).1.all (·.success) = false →
      Course first plan location run world (run'.finish .failed world'.clock, world')
  | went {first : Bool} {plan handed done : Plan} {step : FlowStep} {location : Location}
      {run run' : FlowRun} {world world' : World σ} {result : FlowRun × World σ} :
      plan.Steps (engine.probe world).1 step handed done →
      engine.recordedStep delay observer first step location run world = (none, run', world') →
      (engine.performedStep delay first step location world).1.all (·.success) = true →
      Course false done (location.after step.first) run' world' result →
      Course first plan location run world result

theorem performSteps_of_steps {plan handed done : Plan} {step : FlowStep} {world : World σ}
    (steps : plan.Steps (engine.probe world).1 step handed done) (fuel : Nat) (first : Bool)
    (location : Location) (run : FlowRun) :
    engine.performSteps delay observer (fuel + 1) first plan location run world =
      match engine.recordedStep delay observer first step location run world with
      | (some fault, run, world) => run.abortIn fault world
      | (none, run, world') =>
        if (engine.performedStep delay first step location world).1.all (·.success) then
          engine.performSteps delay observer fuel false done (location.after step.first) run world'
        else (run.finish .failed world'.clock, world') := by
  simp only [performSteps, recordedStep, performedStep, opened, steps.next, steps.complete]
  rfl

theorem course_performSteps (fuel : Nat) (first : Bool) {plan : Plan} (location : Location)
    (run : FlowRun) (world : World σ) (enough : plan.rest.length < fuel)
    (ready : Plan.Ready plan.rest plan.states) :
    engine.Course delay observer first plan location run world
      (engine.performSteps delay observer fuel first plan location run world) := by
  induction fuel generalizing first plan location run world with
  | zero => exact absurd enough (Nat.not_lt_zero _)
  | succ fuel ih =>
      rcases Plan.next_of_ready (engine.probe world).1 ready with
        ⟨after, exhausted, passive⟩ | ⟨step, handed, done, steps⟩
      · simp only [performSteps, exhausted]
        exact .exhausted exhausted passive
      · have shorter := steps.issues.length_lt
        rw [engine.performSteps_of_steps delay observer steps]
        rcases answer : engine.recordedStep delay observer first step location run world with
          ⟨_ | fault, run', world'⟩
        · cases success : (engine.performedStep delay first step location world).1.all (·.success) with
          | true =>
              simp only [reduceIte]
              exact .went steps answer success (ih _ _ _ _ (by omega) steps.ready)
          | false => exact .failed steps answer success
        · exact .aborted steps answer

theorem course_performFlow {nodes : List Node} {node : Node} {start : Start}
    (runnable : Graph.requireRunnable nodes = .ok (node, start)) (edges : List Edge)
    (world : World σ) :
    engine.Course delay observer true (.ofOrder (Graph.order nodes edges) edges) (.ofStart start)
      (FlowRun.start world.clock) world (engine.performFlow delay observer nodes edges world) := by
  have distinct : ((Graph.order nodes edges).map (·.id)).Nodup :=
    Graph.order_distinct (Graph.startNode?_of_runnable runnable)
  simp only [performFlow, runnable]
  exact engine.course_performSteps delay observer _ _ _ _ _ (Nat.lt_succ_self _)
    (Plan.ready_ofOrder distinct)

end Engine

end ChainFlow
