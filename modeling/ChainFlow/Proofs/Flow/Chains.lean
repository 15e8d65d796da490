import ChainFlow.Proofs.Flow.Quoting
import ChainFlow.Proofs.Flow.Settling
import ChainFlow.Proofs.Payload

/-!
# The chains that a step names

A step names chains in the payloads that are sent for it and in the routes of its quotes. What acts on
one chain names the chain where the flow has come to; a bridge leads from there to its own chain, and so
does a bridge with a contract call behind it, which is made at the other end.
-/

namespace ChainFlow

variable {σ : Type}

/-- A call that is sent for a step when the flow has come to a chain. -/
inductive FlowStep.Addressed (purpose : Purpose) (chain : ChainId) : FlowStep → Call → Prop
  | bridge {node : Node} {bridge : Bridge} {payload : Json} :
      node.work? = some (.bridge bridge) → payload.field "chainId" = .int bridge.toChain →
      Addressed purpose chain (.single node) ⟨.on purpose .bridge, payload⟩
  | transfer {node : Node} {transfer : Transfer} {payload : Json} :
      node.work? = some (.transfer transfer) → payload.field "chainId" = .int chain →
      Addressed purpose chain (.single node) ⟨.on purpose .transfer, payload⟩
  | call {node : Node} {call : ContractCall} {payload : Json} :
      node.work? = some (.call call) → payload.field "toChainId" = .int chain →
      Addressed purpose chain (.single node) ⟨.on purpose .call, payload⟩
  | fused {first second : Node} {bridge : Bridge} {payload : Json} :
      first.bridge? = some bridge → payload.field "toChainId" = .int bridge.toChain →
      (payload.field "execute").field "toChainId" = .int bridge.toChain →
      Addressed purpose chain (.fused first second) ⟨.on purpose .bridgeAndCall, payload⟩

/-- The quotes of a step when the flow has come to a chain. A quote has no route only if it failed. -/
inductive FlowStep.Routed (chain : ChainId) : FlowStep → List Quote → Prop
  | failed {step : FlowStep} {quotes : List Quote} :
      (∀ quote ∈ quotes, quote.success = false ∧ quote.route = none) → Routed chain step quotes
  | bridge {node : Node} {bridge : Bridge} {quote : Quote} : node.work? = some (.bridge bridge) →
      quote.route = some [ChainId.name chain, "Avail Nexus", ChainId.name bridge.toChain] →
      Routed chain (.single node) [quote]
  | transfer {node : Node} {transfer : Transfer} {quote : Quote} :
      node.work? = some (.transfer transfer) →
      quote.route = some [s!"Transfer on {ChainId.name chain}"] → Routed chain (.single node) [quote]
  | call {node : Node} {call : ContractCall} {quote : Quote} : node.work? = some (.call call) →
      quote.route = some [s!"Execute {call.action.word} on {ChainId.name chain}"] →
      Routed chain (.single node) [quote]
  | fused {first second : Node} {bridge : Bridge} {call : ContractCall} {bridgeQuote callQuote : Quote} :
      first.bridge? = some bridge → second.call? = some call →
      bridgeQuote.route = some [ChainId.name chain, "Avail Nexus", ChainId.name bridge.toChain] →
      (callQuote.route = some [s!"Execute {call.action.word} on {ChainId.name bridge.toChain}"] ∨
        callQuote.route = some (call.fusedRoute bridge.toChain)) →
      Routed chain (.fused first second) [bridgeQuote, callQuote]

/-! ## Calls -/

theorem ContractCall.operation_of_request {call : ContractCall} {vaults : Vaults} {location : Location}
    {own : Request} (built : call.request vaults location = .ok own) : own.operation = .call := by
  obtain ⟨deposit, _, rfl⟩ := Except.map_eq_ok built
  rfl

theorem operation_of_fusedRequest {bridge : Bridge} {call : ContractCall} {vaults : Vaults}
    {location : Location} {own : Request}
    (built : fusedRequest bridge call vaults location = .ok own) : own.operation = .bridgeAndCall := by
  obtain ⟨deposit, _, rfl⟩ := Except.map_eq_ok built
  rfl

theorem chains_of_fusedRequest {bridge : Bridge} {call : ContractCall} {vaults : Vaults}
    {location : Location} {user : String} {payload : Json}
    (written : (fusedRequest bridge call vaults location).bind (·.payload user) = .ok payload) :
    payload.field "toChainId" = .int bridge.toChain ∧
      (payload.field "execute").field "toChainId" = .int bridge.toChain := by
  rw [fusedRequest_eq] at written
  obtain ⟨execute, executed, rfl⟩ := Except.map_eq_ok written
  exact ⟨rfl, (ContractCall.deposits_of_request executed).chain⟩

variable {purpose : Purpose} {user : Option String} {vaults : Vaults} {location : Location}
  {request : Except Fault Request} {call : Call}

theorem addressed_single {node : Node} (asks : node.request? vaults location = some request)
    (sent : requested purpose user request = [call]) :
    (FlowStep.single node).Addressed purpose location.chain call := by
  obtain ⟨own, payload, built, written, rfl⟩ := requested_eq_singleton sent
  unfold Node.request? at asks
  cases role : node.role with
  | start start => simp [role] at asks
  | finish finish => simp [role] at asks
  | action work estimate =>
      have works : node.work? = some work := by simp only [Node.work?, role]
      cases work with
      | bridge bridge =>
          simp only [role, Option.some.injEq] at asks
          cases asks.trans built
          cases written
          exact .bridge works rfl
      | transfer transfer =>
          simp only [role, Option.some.injEq] at asks
          cases asks.trans built
          cases written
          exact .transfer works rfl
      | call own =>
          by_cases swap : own.action = .swap
          · simp [role, swap] at asks
          · simp only [role, if_neg swap, Option.some.injEq] at asks
            rw [built] at asks
            have payload_eq : (own.request vaults location).bind (·.payload (user.getD "")) =
                .ok payload := by
              rw [asks]
              exact written
            rw [ContractCall.operation_of_request asks]
            exact .call works (ContractCall.deposits_of_request payload_eq).chain

theorem addressed_of_requested {step : FlowStep} (isSound : step.IsSound)
    (asks : step.request? vaults location = some request)
    (sent : requested purpose user request = [call]) :
    step.Addressed purpose location.chain call := by
  cases step with
  | single node => exact addressed_single asks sent
  | fused first second =>
      obtain ⟨bridge, own, isBridge, isCall⟩ := isSound.parts
      simp only [FlowStep.request?, isBridge, isCall] at asks
      by_cases swap : own.action = .swap
      · simp [swap] at asks
      · simp only [if_neg swap, Option.some.injEq] at asks
        obtain ⟨request, payload, built, written, rfl⟩ := requested_eq_singleton sent
        rw [built] at asks
        have payload_eq : (fusedRequest bridge own vaults location).bind (·.payload (user.getD "")) =
            .ok payload := by
          rw [asks]
          exact written
        obtain ⟨toChain, callChain⟩ := chains_of_fusedRequest payload_eq
        rw [operation_of_fusedRequest asks]
        exact .fused isBridge toChain callChain

/-! ## Routes -/

namespace Engine

open Act

variable (engine : Engine σ)

abbrev Goes (route : List String) (quote : Quote) : Prop := quote.route = some route

theorem goes_localBridge (id : String) (bridge : Bridge) (location : Location) :
    Yields (Goes (bridge.route location)) (engine.localBridge id bridge location) :=
  yields_bind_last fun _ => yields_pure rfl

theorem goes_localTransfer (id : String) (location : Location) :
    Yields (Goes (Transfer.route location)) (engine.localTransfer id location) :=
  yields_bind_last fun _ => yields_pure rfl

theorem goes_localCall (id : String) (call : ContractCall) (location : Location) :
    Yields (Goes (call.route location)) (engine.localCall id call location) :=
  yields_bind_last fun _ => yields_pure rfl

theorem goes_quoteBridge (id : String) (bridge : Bridge) (location : Location) :
    Yields (Goes (bridge.route location)) (engine.quoteBridge id bridge location) :=
  engine.yields_preferRemote (yields_bind_last fun _ => yields_bind_last fun _ => yields_pure rfl)
    (engine.goes_localBridge id bridge location)

theorem goes_quoteTransfer (id : String) (transfer : Transfer) (location : Location) :
    Yields (Goes (Transfer.route location)) (engine.quoteTransfer id transfer location) :=
  engine.yields_preferRemote (yields_bind_last fun _ => yields_bind_last fun _ => yields_pure rfl)
    (engine.goes_localTransfer id location)

theorem goes_quoteCall (id : String) (call : ContractCall) (location : Location) :
    Yields (Goes (call.route location)) (engine.quoteCall id call location) :=
  yields_bind_last fun _ => engine.yields_preferRemote
    (yields_bind_last fun _ => yields_bind (engine.goes_localCall id call location) fun _ goes =>
      yields_bind_last fun _ => yields_bind_last fun _ => yields_pure goes)
    (engine.goes_localCall id call location)

theorem goes_quoteFused (bridgeId : String) (bridge : Bridge) (callId : String) (call : ContractCall)
    (location : Location) :
    Yields (fun quotes => Goes (bridge.route location) quotes.1 ∧
        (Goes (call.route (location.onChain bridge.toChain)) quotes.2 ∨
          Goes (call.fusedRoute bridge.toChain) quotes.2))
      (engine.quoteFused bridgeId bridge callId call location) := by
  refine yields_bind_last fun _ => engine.yields_preferRemote ?_ ?_
  · exact yields_bind_last fun _ => yields_bind_last fun _ => yields_bind_last fun _ =>
      yields_pure ⟨rfl, .inr rfl⟩
  · exact yields_bind (engine.goes_localBridge bridgeId bridge location) fun _ bridgeGoes =>
      yields_bind (engine.goes_localCall callId call _) fun _ callGoes =>
        yields_pure ⟨bridgeGoes, .inl callGoes⟩

theorem routed_quoteNode (node : Node) (location : Location) :
    Yields ((FlowStep.single node).Routed location.chain) (engine.quoteNode node location) := by
  have passive : Yields ((FlowStep.single node).Routed location.chain)
      (pure [.failed node.id "Unknown node type"] : Act σ (List Quote)) :=
    yields_pure (.failed (List.forall_mem_singleton.mpr ⟨rfl, rfl⟩))
  unfold quoteNode
  cases role : node.role with
  | start start => exact passive
  | finish finish => exact passive
  | action work estimate =>
      have works : node.work? = some work := by simp only [Node.work?, role]
      cases work with
      | bridge bridge =>
          exact yields_bind (engine.goes_quoteBridge _ _ _) fun _ goes =>
            yields_pure (.bridge works goes)
      | transfer transfer =>
          exact yields_bind (engine.goes_quoteTransfer _ _ _) fun _ goes =>
            yields_pure (.transfer works goes)
      | call call =>
          exact yields_bind (engine.goes_quoteCall _ _ _) fun _ goes => yields_pure (.call works goes)

theorem routed_quoteStep {step : FlowStep} (isSound : step.IsSound) (location : Location) :
    Yields (step.Routed location.chain) (engine.quoteStep step location) := by
  cases step with
  | single node => exact engine.routed_quoteNode node location
  | fused first second =>
      obtain ⟨bridge, call, isBridge, isCall⟩ := isSound.parts
      simp only [quoteStep, isBridge, isCall]
      exact yields_bind (engine.goes_quoteFused _ _ _ _ _) fun _ goes =>
        yields_pure (.fused isBridge isCall goes.1 goes.2)

theorem routed_quoteStepSafely {step : FlowStep} (isSound : step.IsSound) (location : Location)
    (world : World σ) :
    step.Routed location.chain (engine.quoteStepSafely step location world).1 := by
  have yields := engine.routed_quoteStep isSound location
  unfold quoteStepSafely
  rcases ran : (engine.quoteStep step location).runIn world with ⟨fault | quotes, after⟩
  · refine .failed fun quote member => ?_
    obtain ⟨id, _, rfl⟩ := List.mem_map.mp member
    exact ⟨rfl, rfl⟩
  · exact yields world quotes (by rw [ran])

end Engine

end ChainFlow
