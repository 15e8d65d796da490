import ChainFlow.Estimate
import ChainFlow.Flow.Ask
import ChainFlow.Plan
import ChainFlow.Quote

/-!
# Quoting

A node is quoted by the backend if one is live, and by a local estimate otherwise. A backend that
fails, or answers with something that is no quote, is passed over in favour of the local estimate.
-/

namespace ChainFlow.Engine

variable {σ : Type}

def quoted (id cost : String) (seconds : Int) (route : List String) : Quote :=
  ⟨id, true, cost, seconds, some route, none⟩

def localBridge (engine : Engine σ) (id : String) (bridge : Bridge) (location : Location) :
    Act σ Quote := do
  let (cost, seconds) ← engine.estimateBridge (.str bridge.amount)
  return quoted id cost seconds (bridge.route location)

def localTransfer (engine : Engine σ) (id : String) (location : Location) : Act σ Quote := do
  let (cost, seconds) ← engine.estimateTransfer
  return quoted id cost seconds (Transfer.route location)

def localCall (engine : Engine σ) (id : String) (call : ContractCall) (location : Location) :
    Act σ Quote := do
  let (cost, seconds) ← engine.estimateCall call.action
  return quoted id cost seconds (call.route location)

/-- The time that a quote states, or a random one. -/
def statedSeconds (engine : Engine σ) (fields : Fields) (range : Range) : Act σ Int := do
  match ← Act.ofExcept (Fee.seconds? fields) with
  | some seconds => return seconds
  | none => engine.seconds range

def askAnswer (engine : Engine σ) (request : Except Fault Request) : Act σ Json := do
  engine.ask .quote (← Act.ofExcept request)

def askQuote (engine : Engine σ) (request : Except Fault Request) : Act σ Fields := do
  Act.ofExcept (quoteFields (← engine.askAnswer request))

def remoteBridge (engine : Engine σ) (id : String) (bridge : Bridge) (location : Location) :
    Act σ Quote := do
  let fields ← engine.askQuote (.ok (bridge.request location))
  let seconds ← engine.statedSeconds fields liveBridgeRange
  return quoted id (Fee.total (.obj fields)) seconds (bridge.route location)

def remoteTransfer (engine : Engine σ) (id : String) (transfer : Transfer) (location : Location) :
    Act σ Quote := do
  let fields ← engine.askQuote (.ok (transfer.request location))
  let seconds ← engine.statedSeconds fields transferRange
  return quoted id (Fee.total (.obj fields)) seconds (Transfer.route location)

/-- The backend's quote of a contract call. Once there is an answer the local estimate is made, and
then replaced by what the answer states; so numbers are drawn as for a local quote. -/
def remoteCall (engine : Engine σ) (id : String) (call : ContractCall) (location : Location) :
    Act σ Quote := do
  let answer ← engine.askAnswer (call.request engine.vaults location)
  let estimate ← engine.localCall id call location
  let fields ← Act.ofExcept (quoteFields answer)
  let stated ← Act.ofExcept (Fee.seconds? fields)
  return { estimate with
    cost := Fee.total (.obj fields)
    seconds := stated.getD estimate.seconds }

/-- The fees of a bridge and of a contract call quoted in one: each its own if both parts are there,
otherwise all of it for the bridge. -/
def fusedFees (fields : Fields) : String × String :=
  match Fields.get? fields "bridgeSimulation", Fields.get? fields "executeSimulation" with
  | some (.obj bridge), some (.obj call) => (Fee.total (.obj bridge), Fee.total (.obj call))
  | _, _ => (Fee.total (.obj fields), Fee.nothing)

def remoteFused (engine : Engine σ) (bridgeId : String) (bridge : Bridge) (callId : String)
    (call : ContractCall) (location : Location) : Act σ (Quote × Quote) := do
  let fields ← engine.askQuote (fusedRequest bridge call engine.vaults location)
  let (bridgeFee, callFee) := fusedFees fields
  let seconds ← engine.seconds liveBridgeRange
  let estimate ← engine.localCall callId call location
  return (quoted bridgeId bridgeFee seconds (bridge.route location),
    { estimate with cost := callFee, route := some (call.fusedRoute bridge.toChain) })

/-- The backend's answer if one is live and succeeds, else the local one. -/
def preferRemote {α : Type} (engine : Engine σ) (remote fallback : Act σ α) : Act σ α := do
  if ← engine.isLive then
    match ← Act.attempt remote with
    | .ok value => return value
    | .error _ => fallback
  else fallback

def quoteBridge (engine : Engine σ) (id : String) (bridge : Bridge) (location : Location) :
    Act σ Quote :=
  engine.preferRemote (engine.remoteBridge id bridge location)
    (engine.localBridge id bridge location)

def quoteTransfer (engine : Engine σ) (id : String) (transfer : Transfer) (location : Location) :
    Act σ Quote :=
  engine.preferRemote (engine.remoteTransfer id transfer location)
    (engine.localTransfer id location)

def requireSupported (action : Action) : Act σ Unit :=
  if action = .swap then throw (.unsupported action) else pure ()

def quoteCall (engine : Engine σ) (id : String) (call : ContractCall) (location : Location) :
    Act σ Quote := do
  requireSupported call.action
  engine.preferRemote (engine.remoteCall id call location) (engine.localCall id call location)

def quoteFused (engine : Engine σ) (bridgeId : String) (bridge : Bridge) (callId : String)
    (call : ContractCall) (location : Location) : Act σ (Quote × Quote) := do
  requireSupported call.action
  engine.preferRemote (engine.remoteFused bridgeId bridge callId call location) do
    let bridgeQuote ← engine.localBridge bridgeId bridge location
    return (bridgeQuote, ← engine.localCall callId call (location.onChain bridge.toChain))

/-- The quote of a node alone; only actions have one. -/
def quoteNode (engine : Engine σ) (node : Node) (location : Location) : Act σ (List Quote) := do
  match node.role with
  | .action (.bridge bridge) _ => return [← engine.quoteBridge node.id bridge location]
  | .action (.transfer transfer) _ => return [← engine.quoteTransfer node.id transfer location]
  | .action (.call call) _ => return [← engine.quoteCall node.id call location]
  | _ => return [.failed node.id "Unknown node type"]

def quoteStep (engine : Engine σ) (step : FlowStep) (location : Location) : Act σ (List Quote) :=
  match step with
  | .single node => engine.quoteNode node location
  | .fused first second =>
    match first.bridge?, second.call? with
    | some bridge, some call => do
      let (bridgeQuote, callQuote) ← engine.quoteFused first.id bridge second.id call location
      return [bridgeQuote, callQuote]
    | _, _ => engine.quoteNode first location

/-- The quotes of a step; a fault becomes a failed quote of every node of the step. -/
def quoteStepSafely (engine : Engine σ) (step : FlowStep) (location : Location) (world : World σ) :
    List Quote × World σ :=
  match (engine.quoteStep step location).runIn world with
  | (.ok quotes, world) => (quotes, world)
  | (.error fault, world) =>
    (step.ids.map fun id => .failed id (fault.messageOr "Simulation failed"), world)

end ChainFlow.Engine
