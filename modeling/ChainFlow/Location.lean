import ChainFlow.Node.Basic

/-!
# Locations

Which token the next step of a flow acts on, and on which chain. A flow starts where its start node
says; only a bridge moves it, and the token stays the same.
-/

namespace ChainFlow

structure Location where
  token : Token
  chain : ChainId
  deriving DecidableEq

namespace Location

def ofStart (start : Start) : Location := ⟨start.token, start.chain⟩

def onChain (location : Location) (chain : ChainId) : Location := { location with chain }

/-- The location after a node's work: a bridge leads to its chain. -/
def after (location : Location) (node : Node) : Location :=
  match node.bridge? with
  | some bridge => location.onChain bridge.toChain
  | none => location

def describe (location : Location) : String :=
  s!"{location.token.symbol} on {ChainId.name location.chain}"

end Location

end ChainFlow
