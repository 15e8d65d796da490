import ChainFlow.Fee
import ChainFlow.Location
import ChainFlow.World

/-!
# The requests of a step

What a backend is asked for by a node at a location. Quoting and performing a node ask for the same.
A bridge that is fused with a contract call is asked for with the amount of the call, since the
backend sizes the bridge by what is already on the other chain.
-/

namespace ChainFlow

def Bridge.request (bridge : Bridge) (location : Location) : Request :=
  .bridge location.token.symbol bridge.amount bridge.toChain

def Transfer.request (transfer : Transfer) (location : Location) : Request :=
  .transfer location.token.symbol transfer.amount location.chain transfer.recipient

def ContractCall.deposit (call : ContractCall) (vaults : Vaults) (token : Token)
    (chain : ChainId) : Except Fault VaultCall :=
  VaultCall.build vaults call.action chain token.symbol call.amount call.contract

def ContractCall.request (call : ContractCall) (vaults : Vaults) (location : Location) :
    Except Fault Request :=
  (call.deposit vaults location.token location.chain).map fun deposit =>
    .call location.token.symbol call.amount deposit

def fusedRequest (bridge : Bridge) (call : ContractCall) (vaults : Vaults) (location : Location) :
    Except Fault Request :=
  (call.deposit vaults location.token bridge.toChain).map fun deposit =>
    .bridgeAndCall location.token.symbol call.amount bridge.toChain deposit []

def Bridge.route (bridge : Bridge) (location : Location) : List String :=
  [ChainId.name location.chain, "Avail Nexus", ChainId.name bridge.toChain]

def Transfer.route (location : Location) : List String :=
  [s!"Transfer on {ChainId.name location.chain}"]

def ContractCall.route (call : ContractCall) (location : Location) : List String :=
  [s!"Execute {call.action.word} on {ChainId.name location.chain}"]

def ContractCall.fusedRoute (call : ContractCall) (chain : ChainId) : List String :=
  [s!"Execute {call.action.word} on {ChainId.name chain} (bridged and executed in one call)"]

def quoteFields (answer : Json) : Except Fault Fields :=
  match answer with
  | .obj fields => .ok fields
  | value => .error (.notAnObject value)

end ChainFlow
