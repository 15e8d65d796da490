import ChainFlow.Flow.Performing

/-!
# Errands

Everything that a backend can be asked for by itself, without a flow around it, and what its answer is
taken for: a quote as it is, the receipt of what was performed, or the assets of the user.
-/

namespace ChainFlow

inductive Errand where
  | make (purpose : Purpose) (request : Request)
  | balances

inductive Yield where
  | quote (answer : Json)
  | receipt (receipt : Receipt)
  | fused (receipt : FusedReceipt)
  | assets (assets : List Asset)

def Yield.dump (style : Schema.Style) : Yield → Json
  | quote answer => answer
  | receipt report => report.dump style
  | fused report => report.dump style
  | assets all => .arr (all.map (·.dump style))

/-- What the answer to a method is taken for. -/
def Method.read : Method → Json → Except Fault Yield
  | on .quote _, answer => .ok (.quote answer)
  | on .perform .bridgeAndCall, answer =>
    (ofReading FusedReceipt.record (FusedReceipt.read answer)).map .fused
  | on .perform _, answer => (ofReading Receipt.record (Receipt.read answer)).map .receipt
  | balances, answer => (Engine.readAssets answer).map .assets

def Errand.method : Errand → Method
  | make purpose request => .on purpose request.operation
  | balances => .balances

/-- The call that an errand is for the user of a session. -/
def Errand.toCall (user : String) : Errand → Except Fault Call
  | make purpose request => request.toCall purpose user
  | balances => .ok ⟨.balances, .null⟩

namespace Engine

variable {σ : Type}

def carryOut (engine : Engine σ) (errand : Errand) : Act σ Yield := do
  let answer ← match errand with
    | .make purpose request => engine.ask purpose request
    | .balances => engine.send ⟨.balances, .null⟩
  Act.ofExcept (errand.method.read answer)

end Engine

end ChainFlow
