import ChainFlow.Flow.Performing
import ChainFlow.Graph.Check

/-!
# Runs of a flow

A run performs the steps of a flow one after the other and stops at the first that fails. An
observer is told of every outcome as soon as it is recorded. A run never stops with a fault: one
that belongs to no step, be it of the drawing or of the observer, ends the run with an outcome of
its own.
-/

namespace ChainFlow

/-- Someone who is told of outcomes as they come, given all outcomes told before, and who may stop
the run with a fault. -/
abbrev Observer := List Outcome → Outcome → Option Fault

namespace FlowRun

variable {σ : Type}

/-- Records an outcome and tells the observer of it. -/
def recordFor (observer : Option Observer) (run : FlowRun) (outcome : Outcome) (world : World σ) :
    Option Fault × FlowRun × World σ :=
  let run := run.record outcome
  let world := world.log (.recorded outcome)
  match observer with
  | none => (none, run, world)
  | some observer => (observer world.notices outcome, run, world.log (.notified outcome))

/-- Records the outcomes of a step, each with its node as the one begun last, up to a fault of the
observer. -/
def recordAll (observer : Option Observer) : FlowRun → List Outcome → World σ →
    Option Fault × FlowRun × World σ
  | run, [], world => (none, run, world)
  | run, outcome :: rest, world =>
    match recordFor observer (run.begin outcome.node) outcome world with
    | (none, run, world) => recordAll observer run rest world
    | (some fault, run, world) => (some fault, run, world)

def abortIn (run : FlowRun) (fault : Fault) (world : World σ) : FlowRun × World σ :=
  (run.abort fault world.clock, world.log (.aborted fault))

end FlowRun

namespace Engine

variable {σ : Type}

/-- Waits between two steps; `first` says that there is no step before. -/
def pace (delay : Int) (first : Bool) (world : World σ) : World σ :=
  if first || delay == 0 then world else world.pause (.pacing delay)

/-- Performs the steps of a plan. `fuel` is above the number of its nodes. -/
def performSteps (engine : Engine σ) (delay : Int) (observer : Option Observer) :
    Nat → Bool → Plan → Location → FlowRun → World σ → FlowRun × World σ
  | 0, _, _, _, run, world => (run.finish .completed world.clock, world)
  | fuel + 1, first, plan, location, run, world =>
    let (live, world) := engine.probe world
    match plan.next live with
    | (.error fault, _) => run.abortIn fault world
    | (.ok none, _) => (run.finish .completed world.clock, world)
    | (.ok (some step), plan) =>
      let world := (pace delay first world).log (.began step.ids)
      let run := run.begin step.first.id
      let (outcomes, world) := engine.performStepSafely step location world
      match FlowRun.recordAll observer run outcomes world with
      | (some fault, run, world) => run.abortIn fault world
      | (none, run, world) =>
        match plan.complete step with
        | (.error fault, _) => run.abortIn fault world
        | (.ok (), plan) =>
          if outcomes.all (·.success) then
            engine.performSteps delay observer fuel false plan (location.after step.first) run world
          else (run.finish .failed world.clock, world)

/-- Performs a flow, with a delay between steps in milliseconds. -/
def performFlow (engine : Engine σ) (delay : Int) (observer : Option Observer)
    (nodes : List Node) (edges : List Edge) (world : World σ) : FlowRun × World σ :=
  let run := FlowRun.start world.clock
  match Graph.requireRunnable nodes with
  | .error cause => run.abortIn (.unrunnable cause) world
  | .ok (_, start) =>
    let order := Graph.order nodes edges
    engine.performSteps delay observer (order.length + 1) true (.ofOrder order edges)
      (.ofStart start) run world

end Engine

end ChainFlow
