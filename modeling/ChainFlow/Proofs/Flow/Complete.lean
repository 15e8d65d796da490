import ChainFlow.Proofs.Flow.Visits
import ChainFlow.Proofs.Sample
import Mathlib.Data.List.Basic

/-!
# All that a dry run quotes

A dry run quotes every action of the order once, in the order, and each quote carries the id of its
node: whichever nodes are taken together, whether the backend or a local estimate quotes them, and also
where neither can.
-/

namespace ChainFlow.Engine

open Act

variable {σ : Type} (engine : Engine σ)

/-! ## Whose a quote is -/

abbrev Names (id : String) (quote : Quote) : Prop := quote.node = id

/-- A quote of a node that has a cost. -/
structure Answers (id : String) (quote : Quote) : Prop where
  names : Names id quote
  success : quote.success = true

theorem answers_quoted (id cost : String) (seconds : Int) (route : List String) :
    Answers id (quoted id cost seconds route) := ⟨rfl, rfl⟩

theorem answers_localBridge (id : String) (bridge : Bridge) (location : Location) :
    Yields (Answers id) (engine.localBridge id bridge location) :=
  yields_bind_last fun _ => yields_pure (answers_quoted id _ _ _)

theorem answers_localTransfer (id : String) (location : Location) :
    Yields (Answers id) (engine.localTransfer id location) :=
  yields_bind_last fun _ => yields_pure (answers_quoted id _ _ _)

theorem answers_localCall (id : String) (call : ContractCall) (location : Location) :
    Yields (Answers id) (engine.localCall id call location) :=
  yields_bind_last fun _ => yields_pure (answers_quoted id _ _ _)

theorem answers_quoteBridge (id : String) (bridge : Bridge) (location : Location) :
    Yields (Answers id) (engine.quoteBridge id bridge location) :=
  engine.yields_preferRemote
    (yields_bind_last fun _ => yields_bind_last fun _ => yields_pure (answers_quoted id _ _ _))
    (engine.answers_localBridge id bridge location)

theorem answers_quoteTransfer (id : String) (transfer : Transfer) (location : Location) :
    Yields (Answers id) (engine.quoteTransfer id transfer location) :=
  engine.yields_preferRemote
    (yields_bind_last fun _ => yields_bind_last fun _ => yields_pure (answers_quoted id _ _ _))
    (engine.answers_localTransfer id location)

theorem answers_quoteCall (id : String) (call : ContractCall) (location : Location) :
    Yields (Answers id) (engine.quoteCall id call location) :=
  yields_bind_last fun _ => engine.yields_preferRemote
    (yields_bind_last fun _ =>
      yields_bind (engine.answers_localCall id call location) fun _ answers =>
        yields_bind_last fun _ => yields_bind_last fun _ =>
          yields_pure ⟨answers.names, answers.success⟩)
    (engine.answers_localCall id call location)

theorem answers_quoteFused (bridgeId : String) (bridge : Bridge) (callId : String)
    (call : ContractCall) (location : Location) :
    Yields (fun quotes => Answers bridgeId quotes.1 ∧ Answers callId quotes.2)
      (engine.quoteFused bridgeId bridge callId call location) := by
  refine yields_bind_last fun _ => engine.yields_preferRemote ?_ ?_
  · exact yields_bind_last fun _ => yields_bind_last fun _ =>
      yields_bind (engine.answers_localCall callId call location) fun _ answers =>
        yields_pure ⟨answers_quoted bridgeId _ _ _, answers.names, answers.success⟩
  · exact yields_bind (engine.answers_localBridge bridgeId bridge location) fun _ ofBridge =>
      yields_bind (engine.answers_localCall callId call _) fun _ ofCall =>
        yields_pure ⟨ofBridge, ofCall⟩

abbrev AllName (ids : List String) (quotes : List Quote) : Prop := quotes.map (·.node) = ids

theorem allName_singleton {id : String} {quote : Quote} (names : Names id quote) :
    AllName [id] [quote] := by
  rw [AllName, List.map_singleton, names]

theorem names_quoteNode (node : Node) (location : Location) :
    Yields (AllName [node.id]) (engine.quoteNode node location) := by
  unfold quoteNode
  split
  · exact yields_bind (engine.answers_quoteBridge _ _ _) fun _ answers =>
      yields_pure (allName_singleton answers.names)
  · exact yields_bind (engine.answers_quoteTransfer _ _ _) fun _ answers =>
      yields_pure (allName_singleton answers.names)
  · exact yields_bind (engine.answers_quoteCall _ _ _) fun _ answers =>
      yields_pure (allName_singleton answers.names)
  · exact yields_pure (allName_singleton rfl)

theorem names_quoteStep {step : FlowStep} (isSound : step.IsSound) (location : Location) :
    Yields (AllName step.ids) (engine.quoteStep step location) := by
  cases step with
  | single node => exact engine.names_quoteNode node location
  | fused first second =>
      obtain ⟨bridge, call, isBridge, isCall⟩ := isSound.parts
      simp only [quoteStep, isBridge, isCall]
      refine yields_bind (engine.answers_quoteFused _ _ _ _ _) fun _ answers => yields_pure ?_
      rw [AllName, List.map_cons, List.map_singleton, answers.1.names, answers.2.names]
      rfl

/-- The quotes of a step are one for each of its nodes, also if it comes to a fault. -/
theorem names_quoteStepSafely {step : FlowStep} (isSound : step.IsSound) (location : Location)
    (world : World σ) : AllName step.ids (engine.quoteStepSafely step location world).1 := by
  have yields := engine.names_quoteStep isSound location
  unfold quoteStepSafely
  rcases ran : (engine.quoteStep step location).runIn world with ⟨fault | quotes, after⟩
  · simp only [AllName, List.map_map, Function.comp_def, Quote.failed, List.map_id']
  · exact yields world quotes (by rw [ran])

/-! ## All steps -/

variable {engine} in
theorem quoteVisits_of_steps {plan handed done : Plan} {step : FlowStep} {world : World σ}
    {tally total : Tally} {location : Location}
    (steps : plan.Steps (engine.probe world).1 step handed done)
    (added : addAll tally (engine.quotedStep step location world).1 = (.ok (), total)) (fuel : Nat) :
    (engine.quoteVisits (fuel + 1) plan location tally world).1 =
      Visit.of engine.quoteStepSafely step location ((engine.probe world).2.log (.began step.ids)) ::
        (engine.quoteVisits fuel done (location.after step.first) total
          (engine.quotedStep step location world).2).1 := by
  unfold quotedStep at added ⊢
  simp only [quoteVisits, steps.next, added, steps.complete]
  rfl

/-- A dry run goes on to the end of the plan. -/
theorem nodes_quoteVisits (fuel : Nat) {plan : Plan} (location : Location) {tally : Tally}
    (world : World σ) (enough : plan.rest.length < fuel) (ready : Plan.Ready plan.rest plan.states)
    (isSum : Decimal.IsCostSum tally.cost) :
    (engine.quoteVisits fuel plan location tally world).1.flatMap (·.step.nodes) =
      plan.rest.filter Node.isAction := by
  induction fuel generalizing plan location tally world with
  | zero => exact absurd enough (Nat.not_lt_zero _)
  | succ fuel ih =>
      rcases Plan.next_of_ready (engine.probe world).1 ready with
        ⟨after, exhausted, passive⟩ | ⟨step, handed, done, steps⟩
      · simp only [quoteVisits, exhausted, passive, List.flatMap_nil]
      · have shorter := steps.issues.length_lt
        obtain ⟨total, added, isTotal⟩ := addAll_of_isPriced isSum
          (engine.isPriced_quoteStepSafely step location ((engine.probe world).2.log (.began step.ids)))
        rw [quoteVisits_of_steps steps added, List.flatMap_cons,
          ih _ _ (by omega) steps.ready isTotal, steps.issues.actions_eq]
        rfl

theorem nodes_quoteFlow {nodes : List Node} {node : Node} {start : Start}
    (runnable : Graph.requireRunnable nodes = .ok (node, start)) (rate : Binary64)
    (edges : List Edge) (world : World σ) :
    (engine.quoteFlowVisits rate nodes edges world).1.flatMap (·.step.nodes) =
      (Graph.order nodes edges).filter Node.isAction := by
  have ready := Plan.ready_of_runnable runnable edges
  rw [engine.quoteFlowVisits_fst runnable]
  exact engine.nodes_quoteVisits _ _ _ (Nat.lt_succ_self _) ready isCostSum_empty

theorem names_of_taken {visits : List (Visit σ Quote)}
    (taken : ∀ visit ∈ visits, visit.step.IsSound ∧
      visit = Visit.of engine.quoteStepSafely visit.step visit.location visit.before) :
    (visits.flatMap (·.results)).map (·.node) = (visits.flatMap (·.step.nodes)).map (·.id) := by
  rw [List.map_flatMap, List.map_flatMap]
  refine List.flatMap_congr fun visit member => ?_
  obtain ⟨isSound, taken⟩ := taken visit member
  rw [taken]
  exact engine.names_quoteStepSafely isSound _ _

/-- Whatever the backend does, a dry run of a drawing that can be run quotes each action of its order
once, in the order, and that is what it reports. -/
theorem quoteFlow_complete {nodes : List Node} {node : Node} {start : Start}
    (runnable : Graph.requireRunnable nodes = .ok (node, start)) (rate : Binary64)
    (edges : List Edge) (world : World σ) :
    (((Graph.order nodes edges).filter Node.isAction).map (·.id)).Nodup ∧
    ((engine.quoteFlowVisits rate nodes edges world).1.flatMap (·.results)).map (·.node) =
      ((Graph.order nodes edges).filter Node.isAction).map (·.id) ∧
    ∀ quote, (engine.quoteFlow rate nodes edges world).1 = .ok quote →
      quote.quotes.map (·.node) = ((Graph.order nodes edges).filter Node.isAction).map (·.id) := by
  have distinct : ((Graph.order nodes edges).map (·.id)).Nodup :=
    Graph.order_distinct (Graph.startNode?_of_runnable runnable)
  obtain ⟨tour, quotes_eq⟩ := engine.tour_quoteFlow runnable rate edges world
  have names : ((engine.quoteFlowVisits rate nodes edges world).1.flatMap (·.results)).map (·.node) =
      ((Graph.order nodes edges).filter Node.isAction).map (·.id) := by
    rw [engine.names_of_taken tour.taken, engine.nodes_quoteFlow runnable]
  refine ⟨distinct.sublist (List.filter_sublist.map _), names, fun quote done => ?_⟩
  rw [quotes_eq quote done, names]

theorem quoteFlow_complete_sample :
    ∃ quote, (Sample.engine.quoteFlow (.zero false) Sample.nodes Sample.edges (.fresh 0 ())).1 =
      .ok quote ∧ quote.quotes.map (·.node) = ["b", "c", "t"] := by
  have runnable : Graph.requireRunnable Sample.nodes =
      .ok (Sample.start "s" 84532, ⟨84532, .usdc, none, none⟩) := rfl
  obtain ⟨_, _, reported⟩ :=
    Sample.engine.quoteFlow_complete runnable (.zero false) Sample.edges (.fresh 0 ())
  exact ⟨_, rfl, reported _ rfl⟩

end ChainFlow.Engine
