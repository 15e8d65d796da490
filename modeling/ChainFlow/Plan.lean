import ChainFlow.Fault
import ChainFlow.Graph.Walk

/-!
# Plans

A plan hands out the steps of an order of nodes. A step is one action node, or a bridge together
with the contract call right after it, where an edge joins the two and the caller can take both at
once. Start and end nodes are passed over. Every node is pending at first; a bridge that is handed
out with its partner is fused, and every node is done in the end.
-/

namespace ChainFlow

inductive FlowStep where
  | single (node : Node)
  | fused (bridge call : Node)

namespace FlowStep

def nodes : FlowStep → List Node
  | single node => [node]
  | fused bridge call => [bridge, call]

def first : FlowStep → Node
  | single node => node
  | fused bridge _ => bridge

def partner? : FlowStep → Option Node
  | single _ => none
  | fused _ call => some call

def ids (step : FlowStep) : List String := step.nodes.map (·.id)

/-- The word for how a step takes its nodes. -/
def kind : FlowStep → String
  | single _ => "single"
  | fused _ _ => "fused"

end FlowStep

/-- Whether a bridge and the node after it can be one step: the node calls a contract for an action
that is supported, and an edge joins them. -/
def canFuse (edges : List Edge) (node next : Node) : Bool :=
  match node.bridge?, next.call? with
  | some _, some call => call.action ≠ .swap && Graph.hasEdge edges node.id next.id
  | _, _ => false

abbrev States := List (String × StepState)

namespace States

/-- All nodes of an order, pending, each id once. -/
def ofOrder (order : List Node) : States :=
  ((order.map (·.id)).eraseDups).map fun id => (id, .pending)

def replace (states : States) (id : String) (state : StepState) : States :=
  states.map fun entry => if entry.1 == id then (id, state) else entry

end States

def StepState.canBecome : StepState → StepState → Bool
  | pending, fused => true
  | pending, done => true
  | fused, done => true
  | _, _ => false

structure Plan where
  /-- The nodes not yet passed. -/
  rest : List Node
  edges : List Edge
  states : States

namespace Plan

/-- The plan of an order, nothing of it handed out. -/
def ofOrder (order : List Node) (edges : List Edge) : Plan := ⟨order, edges, .ofOrder order⟩

def state (plan : Plan) (id : String) : Except Fault StepState :=
  match plan.states.lookup id with
  | some state => .ok state
  | none => .error (.unknownNode id)

/-- Whether some node is not done. -/
def hasPending (plan : Plan) : Bool := plan.states.any (·.2 ≠ .done)

def transition (states : States) (id : String) (next : StepState) : Except Fault States :=
  match states.lookup id with
  | none => .error (.unknownNode id)
  | some current =>
    if current.canBecome next then .ok (states.replace id next)
    else .error (.badTransition id current next)

/-- The next step of the nodes not yet passed, with those that remain after it. A fault leaves the
plan at the node that caused it. -/
def nextFrom (edges : List Edge) (mayFuse : Bool) :
    List Node → States → Except Fault (Option FlowStep) × List Node × States
  | [], states => (.ok none, [], states)
  | node :: rest, states =>
    if !node.isAction then
      match transition states node.id .done with
      | .ok states => nextFrom edges mayFuse rest states
      | .error fault => (.error fault, node :: rest, states)
    else
      match rest with
      | next :: after =>
        if mayFuse && canFuse edges node next then
          match transition states node.id .fused with
          | .ok states => (.ok (some (.fused node next)), after, states)
          | .error fault => (.error fault, node :: rest, states)
        else (.ok (some (.single node)), rest, states)
      | [] => (.ok (some (.single node)), [], states)

def next (plan : Plan) (mayFuse : Bool) : Except Fault (Option FlowStep) × Plan :=
  let (step, rest, states) := nextFrom plan.edges mayFuse plan.rest plan.states
  (step, { plan with rest, states })

/-- States in which nodes are done, one after the other, up to one that cannot be. -/
def completeAll : List String → States → Except Fault Unit × States
  | [], states => (.ok (), states)
  | id :: rest, states =>
    match transition states id .done with
    | .ok states => completeAll rest states
    | .error fault => (.error fault, states)

def complete (plan : Plan) (step : FlowStep) : Except Fault Unit × Plan :=
  let (result, states) := completeAll step.ids plan.states
  (result, { plan with states })

/-- Steps handed out and completed one after the other, at most as many as there is fuel: those
handed out, and the fault that stopped it. -/
def drainWithin (mayFuse : Bool) : Nat → Plan → List FlowStep × Option Fault × Plan
  | 0, plan => ([], none, plan)
  | fuel + 1, plan =>
    match plan.next mayFuse with
    | (.error fault, plan) => ([], some fault, plan)
    | (.ok none, plan) => ([], none, plan)
    | (.ok (some step), plan) =>
      match plan.complete step with
      | (.error fault, plan) => ([step], some fault, plan)
      | (.ok (), plan) =>
        let (steps, fault, plan) := drainWithin mayFuse fuel plan
        (step :: steps, fault, plan)

/-- All steps that remain, each completed as soon as it is handed out. Every step passes a node, so
there are no more steps than nodes. -/
def drain (plan : Plan) (mayFuse : Bool) : List FlowStep × Option Fault × Plan :=
  plan.drainWithin mayFuse (plan.rest.length + 1)

end Plan

end ChainFlow
