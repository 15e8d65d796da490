import ChainFlow.Vault

/-!
# Requests

What a backend can be asked for: to quote or to perform a bridge, a transfer, a contract call, or a
bridge and a contract call in one; and the balances. `Request.payload` is what is sent, for the user
of the session.
-/

namespace ChainFlow

inductive Purpose where
  | quote
  | perform
  deriving DecidableEq, Repr

inductive Operation where
  | bridge
  | transfer
  | call
  | bridgeAndCall
  deriving DecidableEq, Repr

inductive Method where
  | on (purpose : Purpose) (operation : Operation)
  | balances
  deriving DecidableEq, Repr

def Operation.word : Operation → String
  | bridge => "bridge"
  | transfer => "transfer"
  | call => "execute"
  | bridgeAndCall => "bridge_and_execute"

def Method.name : Method → String
  | on .quote operation => s!"simulate_{operation.word}"
  | on .perform operation => operation.word
  | balances => "get_unified_balances"

structure Call where
  method : Method
  payload : Json

inductive Request where
  | bridge (symbol amount : String) (toChain : ChainId)
  | transfer (symbol amount : String) (chain : ChainId) (recipient : String)
  | call (symbol amount : String) (deposit : VaultCall)
  | bridgeAndCall (symbol amount : String) (toChain : ChainId) (deposit : VaultCall)
    (extra : Fields)

namespace Request

def operation : Request → Operation
  | bridge .. => .bridge
  | transfer .. => .transfer
  | call .. => .call
  | bridgeAndCall .. => .bridgeAndCall

def payload (user : String) : Request → Except Fault Json
  | bridge symbol amount toChain =>
    .ok (.obj [("token", .str symbol), ("amount", .str amount), ("chainId", .int toChain)])
  | transfer symbol amount chain recipient =>
    .ok (.obj [("token", .str symbol), ("amount", .str amount), ("chainId", .int chain),
      ("recipient", .str recipient)])
  | call symbol amount deposit => deposit.payload symbol amount user
  | bridgeAndCall symbol amount toChain deposit extra =>
    (deposit.payload symbol amount user).map fun deposit =>
      .obj (Fields.merge [("token", .str symbol), ("amount", .str amount),
        ("toChainId", .int toChain), ("execute", deposit)] extra)

def toCall (request : Request) (purpose : Purpose) (user : String) : Except Fault Call :=
  (request.payload user).map (⟨.on purpose request.operation, ·⟩)

end Request

end ChainFlow
