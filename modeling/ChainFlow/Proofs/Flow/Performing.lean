import ChainFlow.Proofs.Plan.Next
import ChainFlow.Proofs.World.Touch

/-!
# What performing a step comes to

A step that is performed has one outcome for each of its nodes, in their order, and they agree on
success and on the error.
-/

namespace ChainFlow

variable {σ : Type}

/-- Outcomes that nodes have in common. -/
structure Shared (ids : List String) (outcomes : List Outcome) : Prop where
  nodes : outcomes.map (·.node) = ids
  agree : ∀ first ∈ outcomes, ∀ second ∈ outcomes,
    first.success = second.success ∧ first.error = second.error

theorem shared_single {id : String} {outcome : Outcome} (node : outcome.node = id) :
    Shared [id] [outcome] := by
  constructor
  · rw [List.map_singleton, node]
  · intro first isFirst second isSecond
    rw [List.mem_singleton.mp isFirst, List.mem_singleton.mp isSecond]
    exact ⟨rfl, rfl⟩

/-- A step as a plan hands it out: what is fused is a bridge and a contract call. -/
def FlowStep.IsSound : FlowStep → Prop
  | .single _ => True
  | .fused first second => first.bridge?.isSome = true ∧ second.call?.isSome = true

theorem FlowStep.IsSound.parts {first second : Node} (isSound : (FlowStep.fused first second).IsSound) :
    ∃ bridge call, first.bridge? = some bridge ∧ second.call? = some call := by
  obtain ⟨bridge, isBridge⟩ := Option.isSome_iff_exists.mp isSound.1
  obtain ⟨call, isCall⟩ := Option.isSome_iff_exists.mp isSound.2
  exact ⟨bridge, call, isBridge, isCall⟩

theorem Plan.Issues.isSound {edges : List Edge} {mayFuse : Bool} {rest later : List Node}
    {step : FlowStep} (issues : Plan.Issues edges mayFuse rest step later) : step.IsSound := by
  induction issues with
  | passed _ _ ih => exact ih
  | fused _ fusible =>
      obtain ⟨⟨bridge, isBridge⟩, ⟨call, isCall, _⟩, _⟩ := canFuse_iff.mp fusible
      exact ⟨by rw [isBridge]; rfl, by rw [isCall]; rfl⟩
  | single _ _ => trivial

namespace Engine

open Act

variable (engine : Engine σ)

/-! ## Moves -/

theorem within_pretended (id : String) (location : Location) :
    Within (Touch engine) (engine.pretended id location) :=
  engine.within_of_local <| within_bind (engine.within_pretend _) fun _ =>
    within_bind within_now fun _ => within_pure _

theorem within_ofReceipt (id : String) (receipt : Receipt) (failure : String) :
    Within (Touch engine) (ofReceipt id receipt failure) :=
  within_bind within_now fun _ => within_ite (within_pure _) (within_pure _)

theorem within_askReceipt (request : Except Fault Request) :
    Within (Touch engine) (engine.askReceipt request) :=
  within_bind (within_ofExcept _) fun _ => within_bind (engine.within_ask _ _) fun _ =>
    within_ofExcept _

theorem within_performBridge (id : String) (bridge : Bridge) (location : Location) :
    Within (Touch engine) (engine.performBridge id bridge location) :=
  within_bind engine.within_isLive fun _ => within_ite
    (within_bind (engine.within_askReceipt _) fun _ => engine.within_ofReceipt _ _ _)
    (engine.within_pretended id location)

theorem within_performTransfer (id : String) (transfer : Transfer) (location : Location) :
    Within (Touch engine) (engine.performTransfer id transfer location) :=
  within_bind engine.within_isLive fun _ => within_ite
    (within_bind (engine.within_askReceipt _) fun _ => engine.within_ofReceipt _ _ _)
    (engine.within_pretended id location)

theorem within_performCall (id : String) (call : ContractCall) (location : Location) :
    Within (Touch engine) (engine.performCall id call location) := by
  have asked : Within (Touch engine) (do
      if ← engine.isLive then
        ofReceipt id (← engine.askReceipt (call.request engine.vaults location)) "Execute failed"
      else engine.pretended id location) :=
    within_bind engine.within_isLive fun _ => within_ite
      (within_bind (engine.within_askReceipt _) fun _ => engine.within_ofReceipt _ _ _)
      (engine.within_pretended id location)
  exact within_ite (within_bind (within_throw _) fun _ => asked) asked

theorem within_ofFusedReceipt (bridgeId callId : String) (receipt : FusedReceipt) :
    Within (Touch engine) (ofFusedReceipt bridgeId callId receipt) :=
  within_bind within_now fun _ => within_ite (within_pure _) (within_pure _)

theorem within_performFused (bridgeId : String) (bridge : Bridge) (callId : String)
    (call : ContractCall) (location : Location) :
    Within (Touch engine) (engine.performFused bridgeId bridge callId call location) := by
  unfold performFused
  refine within_ite (within_bind (within_throw _) fun _ => ?_) ?_
  all_goals
    refine within_bind engine.within_isLive fun _ => within_ite ?_ (within_throw _)
    exact within_bind (within_ofExcept _) fun _ => within_bind (engine.within_ask _ _) fun _ =>
      within_bind (within_ofExcept _) fun _ => engine.within_ofFusedReceipt _ _ _

theorem within_performNode (node : Node) (location : Location) :
    Within (Touch engine) (engine.performNode node location) := by
  unfold performNode
  split
  · exact within_bind (engine.within_performBridge _ _ _) fun _ => within_pure _
  · exact within_bind (engine.within_performTransfer _ _ _) fun _ => within_pure _
  · exact within_bind (engine.within_performCall _ _ _) fun _ => within_pure _
  · exact within_bind within_now fun _ => within_pure _

theorem within_performStep (step : FlowStep) (location : Location) :
    Within (Touch engine) (engine.performStep step location) := by
  unfold performStep
  split
  · exact engine.within_performNode _ _
  · split
    · exact within_bind (engine.within_performFused _ _ _ _ _) fun _ => within_pure _
    · exact engine.within_performNode _ _

theorem touches_performStepSafely (step : FlowStep) (location : Location) (world : World σ) :
    Relation.ReflTransGen (Touch engine) world
      (engine.performStepSafely step location world).2 := by
  have touches := engine.within_performStep step location world
  unfold performStepSafely
  rcases ran : (engine.performStep step location).runIn world with ⟨_ | _, after⟩ <;>
    simpa only [ran] using touches

/-! ## Outcomes -/

abbrev IsOf (id : String) (outcome : Outcome) : Prop := outcome.node = id

theorem yields_pretended (id : String) (location : Location) :
    Yields (IsOf id) (engine.pretended id location) :=
  yields_bind_last fun _ => yields_bind_last fun _ => yields_pure rfl

theorem yields_ofReceipt (id : String) (receipt : Receipt) (failure : String) :
    Yields (IsOf id) (ofReceipt id receipt failure : Act σ Outcome) :=
  yields_bind_last fun _ => yields_ite (yields_pure rfl) (yields_pure rfl)

theorem yields_performBridge (id : String) (bridge : Bridge) (location : Location) :
    Yields (IsOf id) (engine.performBridge id bridge location) :=
  yields_bind_last fun _ => yields_ite (yields_bind_last fun _ => yields_ofReceipt id _ _)
    (engine.yields_pretended id location)

theorem yields_performTransfer (id : String) (transfer : Transfer) (location : Location) :
    Yields (IsOf id) (engine.performTransfer id transfer location) :=
  yields_bind_last fun _ => yields_ite (yields_bind_last fun _ => yields_ofReceipt id _ _)
    (engine.yields_pretended id location)

theorem yields_performCall (id : String) (call : ContractCall) (location : Location) :
    Yields (IsOf id) (engine.performCall id call location) := by
  unfold performCall
  refine yields_ite (yields_bind_last fun _ => ?_) ?_
  all_goals
    exact yields_bind_last fun _ => yields_ite (yields_bind_last fun _ => yields_ofReceipt id _ _)
      (engine.yields_pretended id location)

def AreOf (bridgeId callId : String) (outcomes : Outcome × Outcome) : Prop :=
  Shared [bridgeId, callId] [outcomes.1, outcomes.2]

theorem areOf_of_same {bridgeId callId : String} {bridge call : Outcome}
    (isBridge : bridge.node = bridgeId) (isCall : call.node = callId)
    (success : bridge.success = call.success) (error : bridge.error = call.error) :
    AreOf bridgeId callId (bridge, call) := by
  constructor
  · simp only [List.map_cons, List.map_nil, isBridge, isCall]
  · simp only [List.mem_cons, List.not_mem_nil, or_false]
    rintro first (rfl | rfl) second (rfl | rfl)
    · exact ⟨rfl, rfl⟩
    · exact ⟨success, error⟩
    · exact ⟨success.symm, error.symm⟩
    · exact ⟨rfl, rfl⟩

theorem yields_ofFusedReceipt (bridgeId callId : String) (receipt : FusedReceipt) :
    Yields (AreOf bridgeId callId) (ofFusedReceipt bridgeId callId receipt : Act σ _) :=
  yields_bind_last fun _ => yields_ite (yields_pure (areOf_of_same rfl rfl rfl rfl))
    (yields_pure (areOf_of_same rfl rfl rfl rfl))

theorem yields_performFused (bridgeId : String) (bridge : Bridge) (callId : String)
    (call : ContractCall) (location : Location) :
    Yields (AreOf bridgeId callId) (engine.performFused bridgeId bridge callId call location) := by
  unfold performFused
  refine yields_ite (yields_bind_last fun _ => ?_) ?_
  all_goals
    refine yields_bind_last fun _ => yields_ite ?_ (yields_throw _)
    exact yields_bind_last fun _ => yields_bind_last fun _ => yields_bind_last fun _ =>
      yields_ofFusedReceipt bridgeId callId _

theorem yields_performNode (node : Node) (location : Location) :
    Yields (Shared [node.id]) (engine.performNode node location) := by
  unfold performNode
  split
  · exact yields_bind (engine.yields_performBridge _ _ _) fun _ isOf => yields_pure (shared_single isOf)
  · exact yields_bind (engine.yields_performTransfer _ _ _) fun _ isOf =>
      yields_pure (shared_single isOf)
  · exact yields_bind (engine.yields_performCall _ _ _) fun _ isOf => yields_pure (shared_single isOf)
  · exact yields_bind_last fun _ => yields_pure (shared_single rfl)

theorem yields_performStep {step : FlowStep} (isSound : step.IsSound) (location : Location) :
    Yields (Shared step.ids) (engine.performStep step location) := by
  cases step with
  | single node => exact engine.yields_performNode node location
  | fused first second =>
      obtain ⟨bridge, call, isBridge, isCall⟩ := isSound.parts
      simp only [performStep, isBridge, isCall]
      exact yields_bind (engine.yields_performFused _ _ _ _ _) fun _ areOf => yields_pure areOf

/-- The outcomes of a step, be it performed or stopped by a fault, are of its nodes and agree. -/
theorem shared_performStepSafely {step : FlowStep} (isSound : step.IsSound) (location : Location)
    (world : World σ) : Shared step.ids (engine.performStepSafely step location world).1 := by
  have yields := engine.yields_performStep isSound location
  unfold performStepSafely
  rcases ran : (engine.performStep step location).runIn world with ⟨fault | outcomes, after⟩
  · constructor
    · simp only [List.map_map, Function.comp_def, List.map_id']
    · simp only [List.mem_map]
      rintro _ ⟨_, _, rfl⟩ _ ⟨_, _, rfl⟩
      exact ⟨rfl, rfl⟩
  · exact yields world outcomes (by rw [ran])

end Engine

end ChainFlow
