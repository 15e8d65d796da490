import ChainFlow.Proofs.Flow.Performing
import ChainFlow.Proofs.World.Sends

/-!
# The calls of a step

A step asks a live backend for one request at most, and for the same one whether it is quoted or
performed. An action that is not supported asks for nothing. Quoting a step consults the backend once
and does all the rest without it.
-/

namespace ChainFlow

variable {σ : Type}

/-- What a node asks a backend for. -/
def Node.request? (node : Node) (vaults : Vaults) (location : Location) :
    Option (Except Fault Request) :=
  match node.role with
  | .action (.bridge bridge) _ => some (.ok (bridge.request location))
  | .action (.transfer transfer) _ => some (.ok (transfer.request location))
  | .action (.call call) _ =>
    if call.action = .swap then none else some (call.request vaults location)
  | _ => none

def FlowStep.request? (step : FlowStep) (vaults : Vaults) (location : Location) :
    Option (Except Fault Request) :=
  match step with
  | .single node => node.request? vaults location
  | .fused first second =>
    match first.bridge?, second.call? with
    | some bridge, some call =>
      if call.action = .swap then none else some (fusedRequest bridge call vaults location)
    | _, _ => first.request? vaults location

def requestedBy (purpose : Purpose) (user : Option String)
    (request : Option (Except Fault Request)) : List Call :=
  match request with
  | some request => requested purpose user request
  | none => []

namespace Engine

open Act

variable (engine : Engine σ)

/-- The world once the backend has been consulted for a step. -/
def consultedBy (purpose : Purpose) (request : Option (Except Fault Request)) (world : World σ) :
    World σ :=
  match request with
  | some request => engine.consulted purpose request world
  | none => world

/-- The calls of a step that is taken up in a world: none if the backend is not live then. -/
def callsIn (purpose : Purpose) (step : FlowStep) (location : Location) (world : World σ) : List Call :=
  if (engine.probe world).1 then
    requestedBy purpose (engine.userIn (engine.probe world).2) (step.request? engine.vaults location)
  else []

theorem consultedBy_calls (purpose : Purpose) (step : FlowStep) (location : Location)
    (world : World σ) :
    (engine.consultedBy purpose (step.request? engine.vaults location) world).calls =
      world.calls ++ engine.callsIn purpose step location world := by
  unfold consultedBy callsIn
  cases step.request? engine.vaults location with
  | none => simp [requestedBy]
  | some request => exact engine.consulted_calls purpose request world

/-- The calls of a step are known from what it asks for as long as the backend stays live. -/
theorem callsIn_of_steady {engine : Engine σ} {purpose : Purpose} {user : Option String}
    {states : σ → Prop} (steady : engine.Steady purpose user states) (step : FlowStep)
    (location : Location) {world : World σ} (here : states world.backend) :
    engine.callsIn purpose step location world =
      requestedBy purpose user (step.request? engine.vaults location) := by
  obtain ⟨probed, live, there, _⟩ := probe_of_stays steady.stays here
  simp only [callsIn, live, reduceIte, userIn_of_steady steady there]

theorem consultedBy_of_stays {engine : Engine σ} {purpose : Purpose} {states : σ → Prop}
    (stays : engine.Stays purpose states) (request : Option (Except Fault Request)) {world : World σ}
    (here : states world.backend) : states (engine.consultedBy purpose request world).backend := by
  cases request with
  | none => exact here
  | some request =>
      obtain ⟨probed, live, there, _⟩ := probe_of_stays stays here
      obtain ⟨backend, connected, _⟩ := stays.connected
      simp only [consultedBy, consulted, live, reduceIte]
      exact (engine.inquiry connected purpose request probed).stays stays connected there

/-! ## Quoting -/

theorem follows_askQuote (request : Except Fault Request) :
    Follows (fun world => ((engine.inquire .quote request).runIn world).2)
      (engine.askQuote request) :=
  follows_bind (follows_self _) fun _ => within_ofExcept _

/-- Whether the backend's quote or the local one is given, the backend has been consulted. -/
theorem follows_preferRemote {α : Type} {request : Except Fault Request} {remote fallback : Act σ α}
    (asks : Follows (fun world => ((engine.inquire .quote request).runIn world).2) remote)
    (inside : Within Local fallback) :
    Follows (engine.consulted .quote request) (engine.preferRemote remote fallback) := by
  refine engine.follows_isLive_bind (follows_bind (follows_attempt asks) fun result => ?_) inside
  cases result with
  | ok value => exact within_pure value
  | error fault => exact inside

theorem follows_quoteBridge (id : String) (bridge : Bridge) (location : Location) :
    Follows (engine.consulted .quote (.ok (bridge.request location)))
      (engine.quoteBridge id bridge location) :=
  engine.follows_preferRemote
    (follows_bind (engine.follows_askQuote _) fun _ =>
      within_bind (engine.within_statedSeconds _ _) fun _ => within_pure _)
    (engine.within_localBridge id bridge location)

theorem follows_quoteTransfer (id : String) (transfer : Transfer) (location : Location) :
    Follows (engine.consulted .quote (.ok (transfer.request location)))
      (engine.quoteTransfer id transfer location) :=
  engine.follows_preferRemote
    (follows_bind (engine.follows_askQuote _) fun _ =>
      within_bind (engine.within_statedSeconds _ _) fun _ => within_pure _)
    (engine.within_localTransfer id location)

theorem follows_quoteCall (id : String) {call : ContractCall} (supported : call.action ≠ .swap)
    (location : Location) :
    Follows (engine.consulted .quote (call.request engine.vaults location))
      (engine.quoteCall id call location) := by
  unfold quoteCall requireSupported
  simp only [if_neg supported, pure_bind]
  exact engine.follows_preferRemote
    (follows_bind (follows_self _) fun _ => within_bind (engine.within_localCall id call location)
      fun _ => within_bind (within_ofExcept _) fun _ => within_bind (within_ofExcept _) fun _ =>
        within_pure _)
    (engine.within_localCall id call location)

theorem follows_quoteFused (bridgeId : String) (bridge : Bridge) (callId : String)
    {call : ContractCall} (supported : call.action ≠ .swap) (location : Location) :
    Follows (engine.consulted .quote (fusedRequest bridge call engine.vaults location))
      (engine.quoteFused bridgeId bridge callId call location) := by
  unfold quoteFused requireSupported
  simp only [if_neg supported, pure_bind]
  exact engine.follows_preferRemote
    (follows_bind (engine.follows_askQuote _) fun _ => within_bind (engine.within_seconds _) fun _ =>
      within_bind (engine.within_localCall callId call location) fun _ => within_pure _)
    (within_bind (engine.within_localBridge bridgeId bridge location) fun _ =>
      within_bind (engine.within_localCall callId call _) fun _ => within_pure _)

theorem follows_quoteNode (node : Node) (location : Location) :
    Follows (engine.consultedBy .quote (node.request? engine.vaults location))
      (engine.quoteNode node location) := by
  unfold quoteNode Node.request?
  cases node.role with
  | start start => exact within_pure _
  | finish finish => exact within_pure _
  | action work estimate =>
      cases work with
      | bridge bridge => exact follows_bind (engine.follows_quoteBridge _ _ _) fun _ => within_pure _
      | transfer transfer =>
          exact follows_bind (engine.follows_quoteTransfer _ _ _) fun _ => within_pure _
      | call call =>
          refine follows_bind ?_ fun _ => within_pure _
          by_cases swap : call.action = .swap
          · intro world
            simp only [quoteCall, requireSupported, if_pos swap]
            exact .refl
          · simp only [if_neg swap]
            exact engine.follows_quoteCall _ swap _

theorem follows_quoteStep (step : FlowStep) (location : Location) :
    Follows (engine.consultedBy .quote (step.request? engine.vaults location))
      (engine.quoteStep step location) := by
  cases step with
  | single node => exact engine.follows_quoteNode node location
  | fused first second =>
      have alone := engine.follows_quoteNode first location
      simp only [quoteStep, FlowStep.request?]
      cases first.bridge? with
      | none => exact alone
      | some bridge =>
          cases second.call? with
          | none => exact alone
          | some call =>
              refine follows_bind ?_ fun _ => within_pure _
              by_cases swap : call.action = .swap
              · intro world
                simp only [quoteFused, requireSupported, if_pos swap]
                exact .refl
              · simp only [if_neg swap]
                exact engine.follows_quoteFused _ bridge _ swap location

theorem follows_quoteStepSafely (step : FlowStep) (location : Location) (world : World σ) :
    Relation.ReflTransGen Local
      (engine.consultedBy .quote (step.request? engine.vaults location) world)
      (engine.quoteStepSafely step location world).2 := by
  have follows := engine.follows_quoteStep step location world
  unfold quoteStepSafely
  rcases ran : (engine.quoteStep step location).runIn world with ⟨_ | _, after⟩ <;>
    simpa only [ran] using follows

theorem quoteStepSafely_calls (step : FlowStep) (location : Location) (world : World σ) :
    (engine.quoteStepSafely step location world).2.calls =
      world.calls ++ engine.callsIn .quote step location world :=
  (calls_eq_of_local (engine.follows_quoteStepSafely step location world)).1.trans
    (engine.consultedBy_calls .quote step location world)

theorem touches_consultedBy (purpose : Purpose) (request : Option (Except Fault Request))
    (world : World σ) :
    Relation.ReflTransGen (Touch engine) world (engine.consultedBy purpose request world) := by
  cases request with
  | none => exact .refl
  | some request =>
      have asked : Within (Touch engine) (engine.inquire purpose request) :=
        within_bind (within_ofExcept _) fun own => engine.within_ask purpose own
      unfold consultedBy consulted
      dsimp only
      split
      · exact .head (.probed world) (asked (engine.probe world).2)
      · exact .single (.probed world)

theorem touches_quoteStepSafely (step : FlowStep) (location : Location) (world : World σ) :
    Relation.ReflTransGen (Touch engine) world (engine.quoteStepSafely step location world).2 :=
  (engine.touches_consultedBy .quote _ world).trans <|
    Relation.ReflTransGen.mono (fun _ _ move => .inside move) _ _
      (engine.follows_quoteStepSafely step location world)

theorem stays_quoteStepSafely {engine : Engine σ} {states : σ → Prop}
    (stays : engine.Stays .quote states) (step : FlowStep) (location : Location) {world : World σ}
    (here : states world.backend) :
    states (engine.quoteStepSafely step location world).2.backend := by
  rw [(calls_eq_of_local (engine.follows_quoteStepSafely step location world)).2]
  exact consultedBy_of_stays stays _ here

theorem sends_quoteStepSafely {engine : Engine σ} {user : Option String} {states : σ → Prop}
    (steady : engine.Steady .quote user states) (step : FlowStep) (location : Location)
    {world : World σ} (here : states world.backend) :
    states (engine.quoteStepSafely step location world).2.backend ∧
      (engine.quoteStepSafely step location world).2.calls =
        world.calls ++ requestedBy .quote user (step.request? engine.vaults location) := by
  refine ⟨stays_quoteStepSafely steady.stays step location here, ?_⟩
  rw [quoteStepSafely_calls, callsIn_of_steady steady step location here]

end Engine

end ChainFlow
