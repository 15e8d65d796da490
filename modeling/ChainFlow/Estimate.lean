import ChainFlow.World

/-!
# Local estimates

Costs and times where no backend answers. Costs follow fixed formulas, for transfers and contract
calls with a random part of at most one half; times are random within fixed ranges. A pretended
transaction has a hash and a link as a real one has.
-/

namespace ChainFlow.Engine

variable {σ : Type}

/-- A range of seconds, both ends included. -/
structure Range where
  least : Nat
  most : Nat

def bridgeRange : Range := ⟨20, 39⟩

/-- The time of a bridge that a backend has quoted without a time. -/
def liveBridgeRange : Range := ⟨30, 59⟩

def transferRange : Range := ⟨5, 9⟩

def callRange : Range := ⟨5, 14⟩

/-- The point of a range that a number from zero up to one selects. -/
def Range.point (range : Range) (number : Binary64) : Int :=
  range.least + (number.scale (range.most - range.least + 1)).truncate?.getD 0

def seconds (engine : Engine σ) (range : Range) : Act σ Int := do
  return range.point (← engine.drawNext)

/-- A number as the decimal number that its shortest text names. -/
def decimalOf (number : Binary64) : Except Decimal.Signal Decimal := Decimal.parse number.text

/-- The random part of a cost: half of a number from zero up to one. -/
def spread (number : Binary64) : Except Decimal.Signal Decimal := do
  (← decimalOf number).mul (.finite false 5 (-1))

def spreadCost (base : Decimal) (number : Binary64) : Except Decimal.Signal String := do
  Amount.formatCost (← base.add (← spread number))

/-- The cost of bridging an amount: it grows by a thousandth of the base for each unit. -/
def bridgeCostOf (base : Decimal) (amount : Json) : Except Fault String := do
  let hundreds ← ofSignal (Decimal.hundredth (← Amount.parse amount))
  ofSignal do
    let part ← hundreds.mul (.finite false 1 (-1))
    Amount.formatCost (← base.mul (← (Decimal.ofNat 1).add part))

def estimateBridge (engine : Engine σ) (amount : Json) : Act σ (String × Int) := do
  let cost ← Act.ofExcept (bridgeCostOf engine.bridgeCost amount)
  return (cost, ← engine.seconds bridgeRange)

def transferBase : Decimal := .finite false 5 (-1)

def estimateTransfer (engine : Engine σ) : Act σ (String × Int) := do
  let cost ← Act.ofExcept (ofSignal (spreadCost transferBase (← engine.drawNext)))
  return (cost, ← engine.seconds transferRange)

/-- The cost of a contract call without its random part, where the action is supported. -/
def callBase? : Action → Option Decimal
  | .stake => some (.finite false 8 (-1))
  | .lend => some (.finite false 10 (-1))
  | .swap => none

def estimateCall (engine : Engine σ) (action : Action) : Act σ (String × Int) := do
  match callBase? action with
  | none => throw (.unsupported action)
  | some base =>
    let cost ← Act.ofExcept (ofSignal (spreadCost base (← engine.drawNext)))
    return (cost, ← engine.seconds callRange)

/-- Pretends to send a transaction: its hash and its link. -/
def pretend (engine : Engine σ) (chain : ChainId) : Act σ (String × String) := do
  wait (.latency engine.latency)
  let hash ← issueHash
  return (hash, ChainId.transactionUrl chain hash engine.explorer)

end ChainFlow.Engine
