import ChainFlow.Proofs.Estimate
import ChainFlow.Proofs.Flow.Refusal

/-!
# Dry runs that cannot be spoiled

A backend is only asked for a better quote: where it has none, whatever the reason, the local estimate
stands. So a node of which a local estimate can be made has a quote, whatever the backend does, and a
dry run that meets only such nodes succeeds throughout.
-/

namespace ChainFlow.Engine

open Act

variable {σ : Type} (engine : Engine σ)

/-- Whether the amount of a bridge has a cost. -/
def Accepts (bridge : Bridge) : Prop :=
  ∃ cost, bridgeCostOf engine.bridgeCost (.str bridge.amount) = .ok cost

/-- Whether a local estimate can be made of a node: it is no swap, and if it is a bridge, its amount
is accepted. -/
structure Estimates (node : Node) : Prop where
  supported : ¬node.IsSwap
  accepted : ∀ bridge, node.bridge? = some bridge → engine.Accepts bridge

/-! ## Nodes with a quote -/

theorem succeeds_seconds (range : Range) : Succeeds (engine.seconds range) :=
  fun _ => ⟨_, rfl⟩

theorem succeeds_preferRemote {α : Type} {remote fallback : Act σ α}
    (ofFallback : Succeeds fallback) : Succeeds (engine.preferRemote remote fallback) := by
  have isLive : Succeeds engine.isLive := fun _ => ⟨_, rfl⟩
  refine succeeds_bind isLive fun live => ?_
  cases live with
  | false => exact ofFallback
  | true =>
      refine succeeds_bind (succeeds_attempt remote) fun result => ?_
      cases result with
      | ok value => exact succeeds_pure value
      | error fault => exact ofFallback

theorem succeeds_localBridge (id : String) {bridge : Bridge} (location : Location)
    (accepted : engine.Accepts bridge) : Succeeds (engine.localBridge id bridge location) := by
  have estimate : Succeeds (engine.estimateBridge (.str bridge.amount)) :=
    succeeds_bind (succeeds_ofExcept accepted) fun _ =>
      succeeds_bind (engine.succeeds_seconds _) fun _ => succeeds_pure _
  exact succeeds_bind estimate fun _ => succeeds_pure _

section

variable (fractions : ∀ index, (engine.draw index).IsFraction)

include fractions

theorem succeeds_drawNext_bind {α : Type} {next : Binary64 → Act σ α}
    (then_ : ∀ number : Binary64, number.IsFraction → Succeeds (next number)) :
    Succeeds (engine.drawNext >>= next) := by
  have draws : Succeeds engine.drawNext := fun _ => ⟨_, rfl⟩
  have drawn : Yields Binary64.IsFraction engine.drawNext := by
    rintro world _ ⟨⟩
    exact fractions world.drawn
  exact succeeds_bind_of_yields draws drawn then_

theorem succeeds_spread {base : Decimal} (small : Decimal.IsBelow 20 base) (range : Range) :
    Succeeds (do
      let cost ← Act.ofExcept (ofSignal (spreadCost base (← engine.drawNext)))
      return (cost, ← engine.seconds range) : Act σ (String × Int)) := by
  refine engine.succeeds_drawNext_bind fractions fun number fraction => ?_
  obtain ⟨cost, written⟩ := spreadCost_of_isFraction small fraction
  refine succeeds_bind (succeeds_ofExcept ⟨cost, by rw [written]; rfl⟩) fun _ => ?_
  exact succeeds_bind (engine.succeeds_seconds range) fun _ => succeeds_pure _

theorem succeeds_localTransfer (id : String) (location : Location) :
    Succeeds (engine.localTransfer id location) := by
  have estimate : Succeeds engine.estimateTransfer :=
    engine.succeeds_spread fractions (.digits false (by decide)) transferRange
  exact succeeds_bind estimate fun _ => succeeds_pure _

theorem succeeds_localCall (id : String) {call : ContractCall} (location : Location)
    (supported : call.action ≠ .swap) : Succeeds (engine.localCall id call location) := by
  have estimate : Succeeds (engine.estimateCall call.action) := by
    cases action : call.action with
    | swap => exact absurd action supported
    | stake => exact engine.succeeds_spread fractions (.digits false (by decide)) callRange
    | lend => exact engine.succeeds_spread fractions (.digits false (by decide)) callRange
  exact succeeds_bind estimate fun _ => succeeds_pure _

theorem succeeds_quoteCall (id : String) {call : ContractCall} (location : Location)
    (supported : call.action ≠ .swap) : Succeeds (engine.quoteCall id call location) := by
  unfold quoteCall requireSupported
  rw [if_neg supported]
  exact succeeds_bind (succeeds_pure _) fun _ =>
    engine.succeeds_preferRemote (engine.succeeds_localCall fractions id location supported)

theorem succeeds_quoteFused (bridgeId : String) {bridge : Bridge} (callId : String)
    {call : ContractCall} (location : Location) (accepted : engine.Accepts bridge)
    (supported : call.action ≠ .swap) :
    Succeeds (engine.quoteFused bridgeId bridge callId call location) := by
  unfold quoteFused requireSupported
  rw [if_neg supported]
  refine succeeds_bind (succeeds_pure _) fun _ => engine.succeeds_preferRemote ?_
  exact succeeds_bind (engine.succeeds_localBridge bridgeId location accepted) fun _ =>
    succeeds_bind (engine.succeeds_localCall fractions callId _ supported) fun _ => succeeds_pure _

/-! ## Steps -/

theorem succeeds_quoteNode {node : Node} (estimates : engine.Estimates node) (location : Location) :
    Succeeds (engine.quoteNode node location) := by
  unfold quoteNode
  split
  · rename_i bridge _ role
    have accepted := estimates.accepted bridge (by rw [Node.bridge?, role])
    exact succeeds_bind (engine.succeeds_preferRemote
      (engine.succeeds_localBridge node.id location accepted)) fun _ => succeeds_pure _
  · exact succeeds_bind (engine.succeeds_preferRemote
      (engine.succeeds_localTransfer fractions node.id location)) fun _ => succeeds_pure _
  · rename_i call _ role
    have supported : call.action ≠ .swap := fun swap =>
      estimates.supported ⟨call, by rw [Node.call?, role], swap⟩
    exact succeeds_bind (engine.succeeds_quoteCall fractions node.id location supported) fun _ =>
      succeeds_pure _
  · exact succeeds_pure _

theorem succeeds_quoteStep {step : FlowStep} (isSound : step.IsSound)
    (estimates : ∀ node ∈ step.nodes, engine.Estimates node) (location : Location) :
    Succeeds (engine.quoteStep step location) := by
  cases step with
  | single node =>
      exact engine.succeeds_quoteNode fractions (estimates node List.mem_cons_self) location
  | fused first second =>
      obtain ⟨bridge, call, isBridge, isCall⟩ := isSound.parts
      have ofFirst := estimates first List.mem_cons_self
      have ofSecond := estimates second (List.mem_cons_of_mem _ List.mem_cons_self)
      have supported : call.action ≠ .swap := fun swap => ofSecond.supported ⟨call, isCall, swap⟩
      simp only [quoteStep, isBridge, isCall]
      exact succeeds_bind (engine.succeeds_quoteFused fractions first.id second.id location
        (ofFirst.accepted bridge isBridge) supported) fun _ => succeeds_pure _

end

abbrev AllSucceed (quotes : List Quote) : Prop := ∀ quote ∈ quotes, quote.success = true

theorem allSucceed_quoteNode {node : Node} (action : node.isAction = true) (location : Location) :
    Yields AllSucceed (engine.quoteNode node location) := by
  unfold quoteNode
  cases role : node.role with
  | start start =>
      rw [Node.isAction, Node.kind, role] at action
      cases action
  | finish finish =>
      rw [Node.isAction, Node.kind, role] at action
      cases action
  | action work estimate =>
      cases work with
      | bridge bridge =>
          exact yields_bind (engine.answers_quoteBridge _ _ _) fun _ answers =>
            yields_pure (List.forall_mem_singleton.mpr answers.success)
      | transfer transfer =>
          exact yields_bind (engine.answers_quoteTransfer _ _ _) fun _ answers =>
            yields_pure (List.forall_mem_singleton.mpr answers.success)
      | call call =>
          exact yields_bind (engine.answers_quoteCall _ _ _) fun _ answers =>
            yields_pure (List.forall_mem_singleton.mpr answers.success)

theorem allSucceed_quoteStep {step : FlowStep} (isSound : step.IsSound)
    (actions : ∀ node ∈ step.nodes, node.isAction = true) (location : Location) :
    Yields AllSucceed (engine.quoteStep step location) := by
  cases step with
  | single node => exact engine.allSucceed_quoteNode (actions node List.mem_cons_self) location
  | fused first second =>
      obtain ⟨bridge, call, isBridge, isCall⟩ := isSound.parts
      simp only [quoteStep, isBridge, isCall]
      refine yields_bind (engine.answers_quoteFused _ _ _ _ _) fun _ answers => yields_pure ?_
      exact List.forall_mem_cons.mpr
        ⟨answers.1.success, List.forall_mem_singleton.mpr answers.2.success⟩

theorem allSucceed_quoteStepSafely (fractions : ∀ index, (engine.draw index).IsFraction)
    {step : FlowStep} (isSound : step.IsSound)
    (within : ∀ node ∈ step.nodes, node.isAction = true ∧ engine.Estimates node)
    (location : Location) (world : World σ) :
    AllSucceed (engine.quoteStepSafely step location world).1 := by
  have succeeds := engine.succeeds_quoteStep fractions isSound
    (fun node member => (within node member).2) location
  have yields := engine.allSucceed_quoteStep isSound (fun node member => (within node member).1)
    location
  obtain ⟨quotes, done⟩ := succeeds world
  unfold quoteStepSafely
  rcases ran : (engine.quoteStep step location).runIn world with ⟨result, after⟩
  rw [ran] at done
  obtain rfl : result = .ok quotes := done
  exact yields world quotes (by rw [ran])

/-! ## Flows -/

theorem successRate_build {tally : Tally} {rate : Binary64} {quote : FlowQuote}
    (built : tally.build rate = .ok quote) (succeed : AllSucceed quote.quotes) :
    quote.successRate = rate := by
  obtain ⟨cost, _, rfl⟩ := Except.map_eq_ok built
  have all : tally.allSucceeded = true := List.all_eq_true.mpr succeed
  simp only [all, reduceIte]

theorem estimates_sample :
    ∀ node ∈ Graph.order Sample.nodes Sample.edges, Sample.failingEngine.Estimates node := by
  have order : Graph.order Sample.nodes Sample.edges = [Sample.start "s" 84532,
    Sample.bridge "b" 11155111 "5", Sample.call "c" .stake "2.5", Sample.finish "e",
    Sample.transfer "t" "1" "0xabc"] := rfl
  simp only [order, List.forall_mem_cons, List.not_mem_nil, false_imp_iff, implies_true, and_true]
  exact ⟨⟨by rintro ⟨_, ⟨⟩, _⟩, by rintro _ ⟨⟩⟩,
    ⟨by rintro ⟨_, ⟨⟩, _⟩, by rintro _ ⟨⟩; exact ⟨"2.51", rfl⟩⟩,
    ⟨by rintro ⟨_, ⟨⟩, ⟨⟩⟩, by rintro _ ⟨⟩⟩, ⟨by rintro ⟨_, ⟨⟩, _⟩, by rintro _ ⟨⟩⟩,
    ⟨by rintro ⟨_, ⟨⟩, _⟩, by rintro _ ⟨⟩⟩⟩

end ChainFlow.Engine
