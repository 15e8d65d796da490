import ChainFlow.Proofs.Cost
import ChainFlow.Proofs.World.Act

/-!
# What quoting a step comes to

Every quote of a step, be it the backend's or a local one, has a cost that reads as a cost, or it has
failed. So the quotes of a step can be added to a tally.
-/

namespace ChainFlow.Engine

open Act

variable {σ : Type} (engine : Engine σ)

/-! ## Local quotes -/

theorem yields_estimateBridge (amount : Json) :
    Yields (fun estimate => IsCostText estimate.1) (engine.estimateBridge amount) :=
  yields_bind (yields_ofExcept fun _ done => isCostText_bridgeCostOf done) fun _ isCost =>
    yields_bind_last fun _ => yields_pure isCost

theorem yields_estimateTransfer :
    Yields (fun estimate => IsCostText estimate.1) engine.estimateTransfer :=
  yields_bind_last fun _ =>
    yields_bind (yields_ofExcept fun _ done => isCostText_spreadCost (ofSignal_eq_ok done))
      fun _ isCost => yields_bind_last fun _ => yields_pure isCost

theorem yields_estimateCall (action : Action) :
    Yields (fun estimate => IsCostText estimate.1) (engine.estimateCall action) := by
  unfold estimateCall
  cases callBase? action with
  | none => exact yields_throw _
  | some base =>
      exact yields_bind_last fun _ =>
        yields_bind (yields_ofExcept fun _ done => isCostText_spreadCost (ofSignal_eq_ok done))
          fun _ isCost => yields_bind_last fun _ => yields_pure isCost

theorem isPriced_quoted (id : String) {cost : String} (isCost : IsCostText cost) (seconds : Int)
    (route : List String) : (quoted id cost seconds route).IsPriced := fun _ => isCost

theorem yields_localBridge (id : String) (bridge : Bridge) (location : Location) :
    Yields Quote.IsPriced (engine.localBridge id bridge location) :=
  yields_bind (engine.yields_estimateBridge _) fun _ isCost =>
    yields_pure (isPriced_quoted id isCost _ _)

theorem yields_localTransfer (id : String) (location : Location) :
    Yields Quote.IsPriced (engine.localTransfer id location) :=
  yields_bind engine.yields_estimateTransfer fun _ isCost =>
    yields_pure (isPriced_quoted id isCost _ _)

theorem yields_localCall (id : String) (call : ContractCall) (location : Location) :
    Yields Quote.IsPriced (engine.localCall id call location) :=
  yields_bind (engine.yields_estimateCall _) fun _ isCost =>
    yields_pure (isPriced_quoted id isCost _ _)

/-! ## Quotes of the backend -/

theorem yields_preferRemote {α : Type} {post : α → Prop} {remote fallback : Act σ α}
    (ofRemote : Yields post remote) (ofFallback : Yields post fallback) :
    Yields post (engine.preferRemote remote fallback) := by
  refine yields_bind_last fun _ => yields_ite ?_ ofFallback
  have attempted : Yields (fun result => ∀ value, result = .ok value → post value)
      (attempt remote) := by
    rintro world result done value rfl
    rw [runIn_attempt] at done
    exact ofRemote world value (Except.ok.inj done)
  refine yields_bind attempted fun result holds => ?_
  cases result with
  | ok value => exact yields_pure (holds value rfl)
  | error fault => exact ofFallback

theorem yields_quoteBridge (id : String) (bridge : Bridge) (location : Location) :
    Yields Quote.IsPriced (engine.quoteBridge id bridge location) :=
  engine.yields_preferRemote
    (yields_bind_last fun _ => yields_bind_last fun _ =>
      yields_pure (isPriced_quoted id (isCostText_total _) _ _))
    (engine.yields_localBridge id bridge location)

theorem yields_quoteTransfer (id : String) (transfer : Transfer) (location : Location) :
    Yields Quote.IsPriced (engine.quoteTransfer id transfer location) :=
  engine.yields_preferRemote
    (yields_bind_last fun _ => yields_bind_last fun _ =>
      yields_pure (isPriced_quoted id (isCostText_total _) _ _))
    (engine.yields_localTransfer id location)

theorem yields_quoteCall (id : String) (call : ContractCall) (location : Location) :
    Yields Quote.IsPriced (engine.quoteCall id call location) :=
  yields_bind_last fun _ => engine.yields_preferRemote
    (yields_bind_last fun _ => yields_bind_last fun _ => yields_bind_last fun _ =>
      yields_bind_last fun _ => yields_pure fun _ => isCostText_total _)
    (engine.yields_localCall id call location)

theorem yields_quoteFused (bridgeId : String) (bridge : Bridge) (callId : String)
    (call : ContractCall) (location : Location) :
    Yields (fun quotes => quotes.1.IsPriced ∧ quotes.2.IsPriced)
      (engine.quoteFused bridgeId bridge callId call location) := by
  refine yields_bind_last fun _ => engine.yields_preferRemote ?_ ?_
  · refine yields_bind_last fun fields => ?_
    have fees := isCostText_fusedFees fields
    exact yields_bind_last fun _ => yields_bind_last fun _ =>
      yields_pure ⟨isPriced_quoted bridgeId fees.1 _ _, fun _ => fees.2⟩
  · exact yields_bind (engine.yields_localBridge bridgeId bridge location) fun _ bridgePriced =>
      yields_bind (engine.yields_localCall callId call _) fun _ callPriced =>
        yields_pure ⟨bridgePriced, callPriced⟩

/-! ## Steps -/

theorem yields_quoteNode (node : Node) (location : Location) :
    Yields (fun quotes => ∀ quote ∈ quotes, quote.IsPriced) (engine.quoteNode node location) := by
  unfold quoteNode
  split
  · exact yields_bind (engine.yields_quoteBridge _ _ _) fun _ isPriced =>
      yields_pure (List.forall_mem_singleton.mpr isPriced)
  · exact yields_bind (engine.yields_quoteTransfer _ _ _) fun _ isPriced =>
      yields_pure (List.forall_mem_singleton.mpr isPriced)
  · exact yields_bind (engine.yields_quoteCall _ _ _) fun _ isPriced =>
      yields_pure (List.forall_mem_singleton.mpr isPriced)
  · exact yields_pure (List.forall_mem_singleton.mpr fun success => nomatch success)

theorem yields_quoteStep (step : FlowStep) (location : Location) :
    Yields (fun quotes => ∀ quote ∈ quotes, quote.IsPriced) (engine.quoteStep step location) := by
  unfold quoteStep
  split
  · exact engine.yields_quoteNode _ _
  · split
    · refine yields_bind (engine.yields_quoteFused _ _ _ _ _) fun _ arePriced => yields_pure ?_
      exact List.forall_mem_cons.mpr ⟨arePriced.1, List.forall_mem_singleton.mpr arePriced.2⟩
    · exact engine.yields_quoteNode _ _

theorem isPriced_quoteStepSafely (step : FlowStep) (location : Location) (world : World σ) :
    ∀ quote ∈ (engine.quoteStepSafely step location world).1, quote.IsPriced := by
  have yields := engine.yields_quoteStep step location
  unfold quoteStepSafely
  rcases ran : (engine.quoteStep step location).runIn world with ⟨fault | quotes, after⟩
  · intro quote member success
    obtain ⟨id, _, rfl⟩ := List.mem_map.mp member
    cases success
  · exact yields world quotes (by rw [ran])

end ChainFlow.Engine
