import ChainFlow.Proofs.Flow.Quoting
import ChainFlow.Proofs.Graph.Walk
import ChainFlow.Proofs.Plan.Next

/-!
# The course of a dry run

`Engine.Survey` says how a dry run goes on from some point: the quotes of a step can always be added
to the tally, so it goes on until the plan is exhausted.
-/

namespace ChainFlow

theorem Plan.ready_of_runnable {nodes : List Node} {node : Node} {start : Start}
    (runnable : Graph.requireRunnable nodes = .ok (node, start)) (edges : List Edge) :
    Plan.Ready (Plan.ofOrder (Graph.order nodes edges) edges).rest
      (Plan.ofOrder (Graph.order nodes edges) edges).states :=
  Plan.ready_ofOrder (Graph.order_distinct (Graph.startNode?_of_runnable runnable))

namespace Engine

variable {σ : Type} (engine : Engine σ)

def quotedStep (step : FlowStep) (location : Location) (world : World σ) : List Quote × World σ :=
  engine.quoteStepSafely step location ((engine.probe world).2.log (.began step.ids))

inductive Survey : Plan → Location → Tally → World σ → Tally × World σ → Prop
  | exhausted {plan after : Plan} {location : Location} {tally : Tally} {world : World σ} :
      plan.next (engine.probe world).1 = (.ok none, after) → plan.rest.filter Node.isAction = [] →
      Survey plan location tally world (tally, (engine.probe world).2)
  | went {plan handed done : Plan} {step : FlowStep} {location : Location} {tally total : Tally}
      {world : World σ} {result : Tally × World σ} :
      plan.Steps (engine.probe world).1 step handed done →
      addAll tally (engine.quotedStep step location world).1 = (.ok (), total) →
      Survey done (location.after step.first) total (engine.quotedStep step location world).2 result →
      Survey plan location tally world result

theorem quoteSteps_of_steps {plan handed done : Plan} {step : FlowStep} {world : World σ}
    {tally total : Tally} {location : Location}
    (steps : plan.Steps (engine.probe world).1 step handed done)
    (added : addAll tally (engine.quotedStep step location world).1 = (.ok (), total)) (fuel : Nat) :
    engine.quoteSteps (fuel + 1) plan location tally world =
      engine.quoteSteps fuel done (location.after step.first) total
        (engine.quotedStep step location world).2 := by
  unfold quotedStep at added ⊢
  simp only [quoteSteps, steps.next, added, steps.complete]

theorem survey_quoteSteps (fuel : Nat) {plan : Plan} (location : Location) {tally : Tally}
    (world : World σ) (enough : plan.rest.length < fuel) (ready : Plan.Ready plan.rest plan.states)
    (isSum : Decimal.IsCostSum tally.cost) :
    ∃ result, engine.quoteSteps fuel plan location tally world = (.ok result.1, result.2) ∧
      engine.Survey plan location tally world result := by
  induction fuel generalizing plan location tally world with
  | zero => exact absurd enough (Nat.not_lt_zero _)
  | succ fuel ih =>
      rcases Plan.next_of_ready (engine.probe world).1 ready with
        ⟨after, exhausted, passive⟩ | ⟨step, handed, done, steps⟩
      · refine ⟨_, ?_, .exhausted exhausted passive⟩
        simp only [quoteSteps, exhausted]
      · have shorter := steps.issues.length_lt
        obtain ⟨total, added, isTotal⟩ := addAll_of_isPriced isSum
          (engine.isPriced_quoteStepSafely step location ((engine.probe world).2.log (.began step.ids)))
        obtain ⟨result, goes, survey⟩ := ih (location.after step.first)
          (engine.quotedStep step location world).2 (by omega) steps.ready isTotal
        refine ⟨result, ?_, .went steps added survey⟩
        rw [engine.quoteSteps_of_steps steps added, goes]

theorem survey_quoteFlow (rate : Binary64) {nodes : List Node} {node : Node} {start : Start}
    (runnable : Graph.requireRunnable nodes = .ok (node, start)) (edges : List Edge)
    (world : World σ) :
    ∃ result, engine.quoteFlow rate nodes edges world = (result.1.build rate, result.2) ∧
      engine.Survey (.ofOrder (Graph.order nodes edges) edges) (.ofStart start) .empty world result := by
  have ready := Plan.ready_of_runnable runnable edges
  obtain ⟨result, goes, survey⟩ := engine.survey_quoteSteps ((Graph.order nodes edges).length + 1)
    (.ofStart start) world (Nat.lt_succ_self _) ready isCostSum_empty
  refine ⟨result, ?_, survey⟩
  simp only [quoteFlow, runnable, goes]

end Engine

end ChainFlow
