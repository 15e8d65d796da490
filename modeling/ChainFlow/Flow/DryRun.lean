import ChainFlow.Flow.Quoting
import ChainFlow.Graph.Check

/-!
# Dry runs

A dry run quotes every step of a flow, one after the other. A step that cannot be quoted does not
stop it; the flow goes on where the step would have led.
-/

namespace ChainFlow.Engine

variable {σ : Type}

/-- Adds quotes to a tally, up to a fault. -/
def addAll : Tally → List Quote → Except Fault Unit × Tally
  | tally, [] => (.ok (), tally)
  | tally, quote :: rest =>
    match tally.add quote with
    | (.ok (), tally) => addAll tally rest
    | (.error fault, tally) => (.error fault, tally)

/-- Quotes the steps of a plan. `fuel` is above the number of its nodes. -/
def quoteSteps (engine : Engine σ) : Nat → Plan → Location → Tally → World σ →
    Except Fault Tally × World σ
  | 0, _, _, tally, world => (.ok tally, world)
  | fuel + 1, plan, location, tally, world =>
    let (live, world) := engine.probe world
    match plan.next live with
    | (.error fault, _) => (.error fault, world)
    | (.ok none, _) => (.ok tally, world)
    | (.ok (some step), plan) =>
      let (quotes, world) := engine.quoteStepSafely step location (world.log (.began step.ids))
      match addAll tally quotes with
      | (.error fault, _) => (.error fault, world)
      | (.ok (), tally) =>
        match plan.complete step with
        | (.error fault, _) => (.error fault, world)
        | (.ok (), plan) => engine.quoteSteps fuel plan (location.after step.first) tally world

/-- Quotes a flow. Only a drawing that cannot be run, and a total that cannot be written, are
faults. -/
def quoteFlow (engine : Engine σ) (rate : Binary64) (nodes : List Node) (edges : List Edge)
    (world : World σ) : Except Fault FlowQuote × World σ :=
  match Graph.requireRunnable nodes with
  | .error cause => (.error (.unrunnable cause), world)
  | .ok (_, start) =>
    let order := Graph.order nodes edges
    match engine.quoteSteps (order.length + 1) (.ofOrder order edges) (.ofStart start) .empty
        world with
    | (.error fault, world) => (.error fault, world)
    | (.ok tally, world) => (tally.build rate, world)

end ChainFlow.Engine
