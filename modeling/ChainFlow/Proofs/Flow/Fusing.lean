import ChainFlow.Proofs.Flow.Accounts
import ChainFlow.Proofs.Flow.Agreement
import ChainFlow.Proofs.Flow.Complete
import ChainFlow.Proofs.Plan.Fusing

/-!
# Flows with a live backend

A flow asks its backend before each step whether it may fuse. While the backend stays live it always
may, so it takes the steps of a plan that is drained with that leave: a dry run all of them, a run those
up to where it stops. Which drawn pairs it takes in one step is then known from the drawing.
-/

namespace ChainFlow

variable {σ : Type}

namespace Engine

variable (engine : Engine σ) {states : σ → Prop}

variable {engine} in
theorem drain_of_live {purpose : Purpose} (stays : engine.Stays purpose states) {world : World σ}
    (here : states world.backend) {plan after : Plan}
    (exhausted : plan.next (engine.probe world).1 = (.ok none, after)) : (plan.drain true).1 = [] := by
  obtain ⟨probed, live, _, _⟩ := probe_of_stays stays here
  rw [live] at exhausted
  exact Plan.drain_of_exhausted exhausted

theorem steps_quoteVisits (stays : engine.Stays .quote states) (fuel : Nat) {plan : Plan}
    (location : Location) {tally : Tally} {world : World σ} (here : states world.backend)
    (enough : plan.rest.length < fuel) (ready : Plan.Ready plan.rest plan.states)
    (isSum : Decimal.IsCostSum tally.cost) :
    (engine.quoteVisits fuel plan location tally world).1.map (·.step) = (plan.drain true).1 := by
  induction fuel generalizing plan location tally world with
  | zero => exact absurd enough (Nat.not_lt_zero _)
  | succ fuel ih =>
      rcases Plan.next_of_ready (engine.probe world).1 ready with
        ⟨after, exhausted, passive⟩ | ⟨step, handed, done, steps⟩
      · simp only [quoteVisits, exhausted, drain_of_live stays here exhausted, List.map_nil]
      · have shorter := steps.issues.length_lt
        have there := stays_quotedStep stays step location here
        obtain ⟨total, added, isTotal⟩ := addAll_of_isPriced isSum
          (engine.isPriced_quoteStepSafely step location ((engine.probe world).2.log (.began step.ids)))
        rw [quoteVisits_of_steps steps added, List.map_cons, ih _ there (by omega) steps.ready isTotal,
          Plan.drain_of_steps (steps_of_live stays here steps)]
        rfl

theorem steps_performVisits (stays : engine.Stays .perform states) (delay : Int)
    (observer : Option Observer) (fuel : Nat) (first : Bool) {plan : Plan} (location : Location)
    (run : FlowRun) {world : World σ} (here : states world.backend) (enough : plan.rest.length < fuel)
    (ready : Plan.Ready plan.rest plan.states) :
    let result := engine.performVisits delay observer fuel first plan location run world
    result.1.map (·.step) <+: (plan.drain true).1 ∧
      (result.2.1.status = .completed → result.1.map (·.step) = (plan.drain true).1) := by
  induction fuel generalizing first plan location run world with
  | zero => exact absurd enough (Nat.not_lt_zero _)
  | succ fuel ih =>
      rcases Plan.next_of_ready (engine.probe world).1 ready with
        ⟨after, exhausted, passive⟩ | ⟨step, handed, done, steps⟩
      · simp only [performVisits, exhausted, drain_of_live stays here exhausted]
        exact ⟨List.prefix_refl _, fun _ => rfl⟩
      · have shorter := steps.issues.length_lt
        have there :=
          stays_recordedStep delay observer first stays steps.issues.isSound location run here
        rw [engine.performVisits_of_steps steps, Plan.drain_of_steps (steps_of_live stays here steps)]
        -- The step is taken in any case; the rest of the plan only if it went well.
        rcases answer : engine.recordedStep delay observer first step location run world with
          ⟨_ | fault, run', world'⟩
        · rw [answer] at there
          have rest := ih false (location.after step.first) run' there (by omega) steps.ready
          dsimp only
          split
          · exact ⟨List.cons_prefix_cons.mpr ⟨rfl, rest.1⟩, fun completed =>
              congrArg (step :: ·) (rest.2 completed)⟩
          · exact ⟨List.prefix_append [step] _, fun completed => by cases completed⟩
        · exact ⟨List.prefix_append [step] _, fun completed => by cases completed⟩

end Engine

/-- While its backend stays live, a flow takes a bridge and a contract call in one step exactly if the
call is no swap and is where the first branch leads that is open at the bridge; so a bridge is fused with
one call at most, and no node is in two steps. A dry run takes all these steps, and a run those up to
where it stops. -/
theorem flow_fuses_branch {nodes : List Node} {start : Node}
    (found : Graph.startNode? nodes = some start) (edges : List Edge) :
    let steps := ((Plan.ofOrder (Graph.order nodes edges) edges).drain true).1
    Fuses nodes edges steps ∧
      ∀ {σ : Type} (engine : Engine σ) (backend : Backend σ), engine.backend = some backend →
        ∀ world : World σ,
          (backend.LiveThroughout .quote world.backend → ∀ rate,
            let visits := (engine.quoteFlowVisits rate nodes edges world).1
            engine.Inspects visits world (engine.quoteFlow rate nodes edges world) ∧
              visits.map (·.step) = steps) ∧
          (backend.LiveThroughout .perform world.backend → ∀ delay observer,
            let visits := (engine.performFlowVisits delay observer nodes edges world).1
            engine.Accounts visits world (engine.performFlow delay observer nodes edges world) ∧
              visits.map (·.step) <+: steps ∧
              ((engine.performFlow delay observer nodes edges world).1.status = .completed →
                visits.map (·.step) = steps)) := by
  intro steps
  have fuses : Fuses nodes edges steps := fuses_order found edges
  have ready := @Plan.ready_ofOrder _ edges (@Graph.order_distinct nodes edges start found)
  -- A drawing that cannot be run has a plan all the same, but nothing to do in it.
  have idle : ∀ cause, Graph.requireRunnable nodes = .error cause → steps = [] := fun cause unrunnable =>
    Plan.drain_of_passive true ready (Graph.passive_of_unrunnable found unrunnable)
  refine ⟨fuses, fun engine backend connected world => ⟨fun live rate => ?_, fun live delay observer => ?_⟩⟩
  · refine ⟨engine.inspects_quoteFlow rate nodes edges world, ?_⟩
    cases runnable : Graph.requireRunnable nodes with
    | error cause => simp only [Engine.quoteFlowVisits, runnable, idle cause runnable, List.map_nil]
    | ok result =>
        rw [engine.quoteFlowVisits_fst runnable]
        exact engine.steps_quoteVisits (Engine.stays_of_live connected live) _ _ .start
          (Nat.lt_succ_self _) ready isCostSum_empty
  · refine ⟨engine.accounts_performFlow delay observer nodes edges world, ?_⟩
    cases runnable : Graph.requireRunnable nodes with
    | error cause =>
        simp only [Engine.performFlowVisits, runnable, idle cause runnable, List.map_nil]
        exact ⟨List.prefix_refl _, fun _ => trivial⟩
    | ok result =>
        rw [← engine.performFlowVisits_snd]
        simp only [Engine.performFlowVisits, runnable]
        exact engine.steps_performVisits (Engine.stays_of_live connected live) delay observer _ true _ _
          .start (Nat.lt_succ_self _) ready

/-- The sample drawing with another contract call, to which an edge leads from the bridge before the one
to the first call, but which the walk has come to before. -/
def Sample.branchedNodes : List Node := Sample.nodes ++ [call "d" .lend "1"]

def Sample.branchedEdges : List Edge :=
  [edge "s" "d", edge "b" "ghost", edge "b" "b", edge "b" "d"] ++ Sample.edges

theorem flow_fuses_branch_sample :
    let steps :=
      ((Plan.ofOrder (Graph.order Sample.branchedNodes Sample.branchedEdges) Sample.branchedEdges).drain
        true).1
    steps.map (·.ids) = [["d"], ["b", "c"], ["t"]] ∧
      (Graph.branch? Sample.branchedNodes Sample.branchedEdges
        [Sample.start "s" 84532, Sample.call "d" .lend "1"] (Sample.bridge "b" 11155111 "5")).map
          (·.target) = some "c" ∧
      Fuses Sample.branchedNodes Sample.branchedEdges steps ∧
      (Sample.engine.quoteFlowVisits (.zero false) Sample.branchedNodes Sample.branchedEdges
        (.fresh 0 ())).1.map (·.step) = steps ∧
      (Sample.engine.performFlowVisits 0 none Sample.branchedNodes Sample.branchedEdges
        (.fresh 0 ())).1.map (·.step) <+: steps := by
  have found : Graph.startNode? Sample.branchedNodes = some (Sample.start "s" 84532) := rfl
  obtain ⟨fuses, flows⟩ := flow_fuses_branch found Sample.branchedEdges
  obtain ⟨dryRun, run⟩ := flows Sample.engine Sample.backend rfl (.fresh 0 ())
  exact ⟨by decide, by decide, fuses, (dryRun (fun _ _ => rfl) (.zero false)).2,
    (run (fun _ _ => rfl) 0 none).2.1⟩

end ChainFlow
