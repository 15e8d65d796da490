import ChainFlow.Flow.DryRun
import ChainFlow.Flow.LiveRun

/-!
# Plans in another form

A flow knows its plan by the steps that it hands out. If plans can be put into another form in which
they hand out steps that come to the same, a flow does the same with either form
(`Recasts.performSteps_eq`, `Recasts.quoteSteps_eq`).
-/

namespace ChainFlow

variable {σ : Type}

/-- Another form of plans and of steps in which an engine does the same, for plans that are fit for
it. -/
structure Engine.Recasts (engine : Engine σ) (fits : Plan → Prop) (plans : Plan → Plan)
    (steps : FlowStep → FlowStep) : Prop where
  next_eq : ∀ plan mayFuse, fits plan → (plans plan).next mayFuse =
    ((plan.next mayFuse).1.map (Option.map steps), plans (plan.next mayFuse).2)
  complete_eq : ∀ plan step, (plans plan).complete (steps step) =
    ((plan.complete step).1, plans (plan.complete step).2)
  fits_next : ∀ plan mayFuse, fits plan → fits (plan.next mayFuse).2
  fits_complete : ∀ plan step, fits plan → fits (plan.complete step).2
  ids_eq : ∀ step, (steps step).ids = step.ids
  after_eq : ∀ location step, Location.after location (steps step).first = location.after step.first
  perform_eq : ∀ step location world,
    engine.performStepSafely (steps step) location world = engine.performStepSafely step location world
  quote_eq : ∀ step location world,
    engine.quoteStepSafely (steps step) location world = engine.quoteStepSafely step location world

theorem FlowStep.head?_ids (step : FlowStep) : step.ids.head? = some step.first.id := by
  cases step <;> rfl

namespace Engine.Recasts

variable {engine : Engine σ} {fits : Plan → Prop} {plans : Plan → Plan} {steps : FlowStep → FlowStep}
  (recasts : engine.Recasts fits plans steps)

include recasts

theorem first_id (step : FlowStep) : (steps step).first.id = step.first.id := by
  have head := (steps step).head?_ids
  rw [recasts.ids_eq, step.head?_ids] at head
  exact (Option.some.inj head).symm

theorem performSteps_eq (delay : Int) (observer : Option Observer) (fuel : Nat) (first : Bool)
    {plan : Plan} (fit : fits plan) (location : Location) (run : FlowRun) (world : World σ) :
    engine.performSteps delay observer fuel first (plans plan) location run world =
      engine.performSteps delay observer fuel first plan location run world := by
  induction fuel generalizing first plan location run world with
  | zero => rfl
  | succ fuel ih =>
      unfold performSteps
      rcases engine.probe world with ⟨live, probed⟩
      have fitNext := recasts.fits_next plan live fit
      simp only [recasts.next_eq plan live fit]
      rcases asked : plan.next live with ⟨fault | _ | step, handed⟩
      · rfl
      · rfl
      · rw [asked] at fitNext
        have fitDone := recasts.fits_complete handed step fitNext
        simp only [Except.map, Option.map_some, recasts.ids_eq, recasts.first_id, recasts.perform_eq,
          recasts.complete_eq, recasts.after_eq]
        rcases engine.performStepSafely step location
          ((pace delay first probed).log (.began step.ids)) with ⟨outcomes, after⟩
        rcases FlowRun.recordAll observer (run.begin step.first.id) outcomes after with
          ⟨_ | fault, run', told⟩
        · rcases completed : handed.complete step with ⟨fault | _, done⟩
          · rfl
          · rw [completed] at fitDone
            simp only [ih _ fitDone]
        · rfl

theorem quoteSteps_eq (fuel : Nat) {plan : Plan} (fit : fits plan) (location : Location)
    (tally : Tally) (world : World σ) :
    engine.quoteSteps fuel (plans plan) location tally world =
      engine.quoteSteps fuel plan location tally world := by
  induction fuel generalizing plan location tally world with
  | zero => rfl
  | succ fuel ih =>
      unfold quoteSteps
      rcases engine.probe world with ⟨live, probed⟩
      have fitNext := recasts.fits_next plan live fit
      simp only [recasts.next_eq plan live fit]
      rcases asked : plan.next live with ⟨fault | _ | step, handed⟩
      · rfl
      · rfl
      · rw [asked] at fitNext
        have fitDone := recasts.fits_complete handed step fitNext
        simp only [Except.map, Option.map_some, recasts.ids_eq, recasts.quote_eq, recasts.complete_eq,
          recasts.after_eq]
        rcases engine.quoteStepSafely step location (probed.log (.began step.ids)) with ⟨quotes, after⟩
        rcases addAll tally quotes with ⟨fault | _, total⟩
        · rfl
        · rcases completed : handed.complete step with ⟨fault | _, done⟩
          · rfl
          · rw [completed] at fitDone
            exact ih fitDone _ _ _

end Engine.Recasts

end ChainFlow
