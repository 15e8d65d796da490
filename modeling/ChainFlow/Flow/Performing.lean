import ChainFlow.Estimate
import ChainFlow.Flow.Ask
import ChainFlow.Plan

/-!
# Performing

A node is performed by the backend if one is live; otherwise its transaction is pretended. A backend
that fails makes the node fail: nothing is pretended in its place. A bridge and a contract call in
one need a live backend.
-/

namespace ChainFlow.Engine

variable {σ : Type}

/-- The outcome of a node whose transaction is pretended. -/
def pretended (engine : Engine σ) (id : String) (location : Location) : Act σ Outcome := do
  let (hash, url) ← engine.pretend location.chain
  return ⟨id, true, some hash, some url, none, ← Act.now⟩

def ofReceipt (id : String) (receipt : Receipt) (failure : String) : Act σ Outcome := do
  let now ← Act.now
  if receipt.success then
    return ⟨id, true, FusedReceipt.stated receipt.hash, FusedReceipt.stated receipt.url, none, now⟩
  else
    return ⟨id, false, none, none, some ((FusedReceipt.stated receipt.error).getD failure), now⟩

def askReceipt (engine : Engine σ) (request : Except Fault Request) : Act σ Receipt := do
  let answer ← engine.ask .perform (← Act.ofExcept request)
  Act.ofExcept (ofReading Receipt.record (Receipt.read answer))

def performBridge (engine : Engine σ) (id : String) (bridge : Bridge) (location : Location) :
    Act σ Outcome := do
  if ← engine.isLive then
    ofReceipt id (← engine.askReceipt (.ok (bridge.request location))) "Bridge failed"
  else engine.pretended id location

def performTransfer (engine : Engine σ) (id : String) (transfer : Transfer)
    (location : Location) : Act σ Outcome := do
  if ← engine.isLive then
    ofReceipt id (← engine.askReceipt (.ok (transfer.request location))) "Transfer failed"
  else engine.pretended id location

def performCall (engine : Engine σ) (id : String) (call : ContractCall) (location : Location) :
    Act σ Outcome := do
  if call.action = .swap then throw (.unsupported call.action)
  if ← engine.isLive then
    ofReceipt id (← engine.askReceipt (call.request engine.vaults location)) "Execute failed"
  else engine.pretended id location

def ofFusedReceipt (bridgeId callId : String) (receipt : FusedReceipt) :
    Act σ (Outcome × Outcome) := do
  let now ← Act.now
  if receipt.success then
    return (⟨bridgeId, true, receipt.bridgeSide.1, receipt.bridgeSide.2, none, now⟩,
      ⟨callId, true, receipt.callSide.1, receipt.callSide.2, none, now⟩)
  else
    let error := (FusedReceipt.stated receipt.error).getD "Bridge and execute failed"
    return (⟨bridgeId, false, none, none, some error, now⟩,
      ⟨callId, false, none, none, some error, now⟩)

def performFused (engine : Engine σ) (bridgeId : String) (bridge : Bridge) (callId : String)
    (call : ContractCall) (location : Location) : Act σ (Outcome × Outcome) := do
  if call.action = .swap then throw (.unsupported call.action)
  if ← engine.isLive then
    let request ← Act.ofExcept (fusedRequest bridge call engine.vaults location)
    let answer ← engine.ask .perform request
    ofFusedReceipt bridgeId callId
      (← Act.ofExcept (ofReading FusedReceipt.record (FusedReceipt.read answer)))
  else throw .notConnected

/-- The assets that some values are, up to the first that is none. -/
def readEach : List Json → Except Fault (List Asset)
  | [] => .ok []
  | item :: rest =>
    match ofReading Asset.record (Asset.read item) with
    | .ok asset => (readEach rest).map (asset :: ·)
    | .error fault => .error fault

def readAssets (answer : Json) : Except Fault (List Asset) := do readEach (← itemsOf answer)

def assets (engine : Engine σ) : Act σ (List Asset) := do
  if ← engine.isLive then
    Act.ofExcept (readAssets (← engine.send ⟨.balances, .null⟩))
  else throw .notConnected

/-- The outcome of a node alone; only actions can be performed. -/
def performNode (engine : Engine σ) (node : Node) (location : Location) :
    Act σ (List Outcome) := do
  match node.role with
  | .action (.bridge bridge) _ => return [← engine.performBridge node.id bridge location]
  | .action (.transfer transfer) _ => return [← engine.performTransfer node.id transfer location]
  | .action (.call call) _ => return [← engine.performCall node.id call location]
  | _ => return [⟨node.id, false, none, none, some "Unknown node type", ← Act.now⟩]

def performStep (engine : Engine σ) (step : FlowStep) (location : Location) :
    Act σ (List Outcome) :=
  match step with
  | .single node => engine.performNode node location
  | .fused first second =>
    match first.bridge?, second.call? with
    | some bridge, some call => do
      let (bridgeOutcome, callOutcome) ←
        engine.performFused first.id bridge second.id call location
      return [bridgeOutcome, callOutcome]
    | _, _ => engine.performNode first location

/-- The outcomes of a step; a fault becomes a failed outcome of every node of the step. -/
def performStepSafely (engine : Engine σ) (step : FlowStep) (location : Location)
    (world : World σ) : List Outcome × World σ :=
  match (engine.performStep step location).runIn world with
  | (.ok outcomes, world) => (outcomes, world)
  | (.error fault, world) =>
    (step.ids.map fun id =>
      ⟨id, false, none, none, some (fault.messageOr FlowRun.faultMessage), world.clock⟩, world)

end ChainFlow.Engine
