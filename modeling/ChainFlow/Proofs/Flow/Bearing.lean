import ChainFlow.Proofs.Flow.Recasting
import ChainFlow.Proofs.Sample
import Mathlib.Data.List.Forall2

/-!
# What a flow reads of its drawing

Most of a drawing is for the canvas, and much of what looks like an instruction is only advice: a
chain or a token of an action's own, for example. `Node.bare` and `Edge.bare` leave what a flow acts
on and put nothing in the place of all else. Walking, planning, quoting and performing go through
bare drawings as through the drawings themselves, so drawings that are alike in what is left have
the same dry runs and the same runs, with the same calls.
-/

namespace ChainFlow

/-! ## Bare drawings -/

def Start.bare (start : Start) : Start := ⟨start.chain, start.token, none, none⟩

def Bridge.bare (bridge : Bridge) : Bridge := ⟨bridge.toChain, bridge.amount, none, none⟩

def Transfer.bare (transfer : Transfer) : Transfer := ⟨transfer.amount, transfer.recipient, none, none⟩

def ContractCall.bare (call : ContractCall) : ContractCall :=
  ⟨call.action, call.amount, none, none, call.contract, none⟩

def Work.bare : Work → Work
  | .bridge own => .bridge own.bare
  | .transfer own => .transfer own.bare
  | .call own => .call own.bare

def Role.bare : Role → Role
  | .start own => .start own.bare
  | .action work _ => .action work.bare ⟨none, none⟩
  | .finish _ => .finish ⟨none, none, none, none⟩

/-- A node with nothing on it but what a flow acts on. -/
def Node.bare (node : Node) : Node := ⟨node.id, .origin, "", none, node.role.bare, [], [], []⟩

def Edge.bare (edge : Edge) : Edge := ⟨"", edge.source, edge.target, none, none, none, none, []⟩

def FlowStep.bare : FlowStep → FlowStep
  | .single node => .single node.bare
  | .fused bridge call => .fused bridge.bare call.bare

def Plan.bare (plan : Plan) : Plan := ⟨plan.rest.map Node.bare, plan.edges.map Edge.bare, plan.states⟩

/-! ## Drawings that are alike -/

/-- Whether two parts in a flow are of one kind and alike in what a flow acts on. -/
def Role.Alike : Role → Role → Prop
  | .start own, .start other => own.chain = other.chain ∧ own.token = other.token
  | .action (.bridge own) _, .action (.bridge other) _ =>
      own.toChain = other.toChain ∧ own.amount = other.amount
  | .action (.transfer own) _, .action (.transfer other) _ =>
      own.amount = other.amount ∧ own.recipient = other.recipient
  | .action (.call own) _, .action (.call other) _ =>
      own.action = other.action ∧ own.amount = other.amount ∧ own.contract = other.contract
  | .finish _, .finish _ => True
  | _, _ => False

structure Node.Alike (node other : Node) : Prop where
  id : node.id = other.id
  role : node.role.Alike other.role

structure Edge.Alike (edge other : Edge) : Prop where
  source : edge.source = other.source
  target : edge.target = other.target

theorem Role.Alike.bare_eq {role other : Role} (alike : role.Alike other) : role.bare = other.bare := by
  rcases role with start | ⟨bridge | transfer | call, estimate⟩ | finish <;>
    rcases other with start' | ⟨bridge' | transfer' | call', estimate'⟩ | finish' <;>
    simp_all [Role.Alike, Role.bare, Work.bare, Start.bare, Bridge.bare, Transfer.bare,
      ContractCall.bare]

theorem Node.Alike.bare_eq {node other : Node} (alike : node.Alike other) : node.bare = other.bare := by
  simp only [Node.bare, alike.id, alike.role.bare_eq]

theorem Edge.Alike.bare_eq {edge other : Edge} (alike : edge.Alike other) : edge.bare = other.bare := by
  simp only [Edge.bare, alike.source, alike.target]

theorem map_eq_of_alike {α β : Type} {alike : α → α → Prop} (bare : α → β)
    (same : ∀ one other, alike one other → bare one = bare other) {items others : List α}
    (all : List.Forall₂ alike items others) : items.map bare = others.map bare := by
  have equal : List.Forall₂ (· = ·) (items.map bare) (others.map bare) := by
    rw [List.forall₂_map_left_iff, List.forall₂_map_right_iff]
    exact all.imp same
  rwa [List.forall₂_eq_eq_eq] at equal

/-! ## Walks -/

namespace Node

theorem kind_bare (node : Node) : node.bare.kind = node.kind := by
  rcases node with ⟨_, _, _, _, _ | ⟨_ | _ | _, _⟩ | _, _, _, _⟩ <;> rfl

theorem isAction_bare (node : Node) : node.bare.isAction = node.isAction := by
  simp only [isAction, kind_bare]

theorem isStart_bare (node : Node) : node.bare.isStart = node.isStart := by
  simp only [isStart, kind_bare]

theorem start?_bare (node : Node) : node.bare.start? = node.start?.map Start.bare := by
  rcases node with ⟨_, _, _, _, _ | ⟨_ | _ | _, _⟩ | _, _, _, _⟩ <;> rfl

theorem bridge?_bare (node : Node) : node.bare.bridge? = node.bridge?.map Bridge.bare := by
  rcases node with ⟨_, _, _, _, _ | ⟨_ | _ | _, _⟩ | _, _, _, _⟩ <;> rfl

theorem call?_bare (node : Node) : node.bare.call? = node.call?.map ContractCall.bare := by
  rcases node with ⟨_, _, _, _, _ | ⟨_ | _ | _, _⟩ | _, _, _, _⟩ <;> rfl

end Node

namespace Graph

theorem find?_map_bare {property : Node → Bool} (same : ∀ node : Node, property node.bare = property node)
    (nodes : List Node) : (nodes.map Node.bare).find? property = (nodes.find? property).map Node.bare := by
  rw [List.find?_map]
  congr 2
  funext node
  exact same node

theorem targets_bare (edges : List Edge) (source : String) :
    targets (edges.map Edge.bare) source = targets edges source := by
  simp only [targets, List.filter_map, List.map_map]
  rfl

theorem hasEdge_bare (edges : List Edge) (source target : String) :
    hasEdge (edges.map Edge.bare) source target = hasEdge edges source target := by
  simp only [hasEdge, List.any_map]
  rfl

theorem walkFrom_bare (nodes : List Node) (edges : List Edge) (fuel : Nat) (visited stack : List String) :
    walkFrom (nodes.map Node.bare) (edges.map Edge.bare) fuel visited stack =
      (walkFrom nodes edges fuel visited stack).map Node.bare := by
  induction fuel generalizing visited stack with
  | zero => rfl
  | succ fuel ih =>
      cases stack with
      | nil => rfl
      | cons id stack =>
          have found : node? (nodes.map Node.bare) id = (node? nodes id).map Node.bare :=
            find?_map_bare (fun _ => rfl) nodes
          simp only [walkFrom, found, targets_bare]
          split
          · exact ih visited stack
          · cases node? nodes id with
            | none => exact ih visited stack
            | some node => exact congrArg (node.bare :: ·) (ih _ _)

theorem order_bare (nodes : List Node) (edges : List Edge) :
    order (nodes.map Node.bare) (edges.map Edge.bare) = (order nodes edges).map Node.bare := by
  have found : startNode? (nodes.map Node.bare) = (startNode? nodes).map Node.bare :=
    find?_map_bare Node.isStart_bare nodes
  unfold order
  rw [found, List.length_map]
  cases startNode? nodes with
  | none => rfl
  | some start => exact walkFrom_bare nodes edges _ _ _

theorem requireRunnable_bare (nodes : List Node) : requireRunnable (nodes.map Node.bare) =
    (requireRunnable nodes).map fun found => (found.1.bare, found.2.bare) := by
  have found : startNode? (nodes.map Node.bare) = (startNode? nodes).map Node.bare :=
    find?_map_bare Node.isStart_bare nodes
  have acts : hasAction (nodes.map Node.bare) = hasAction nodes := by
    simp only [hasAction, List.any_map, Function.comp_def, Node.isAction_bare]
  unfold requireRunnable
  rw [found, acts, List.isEmpty_map]
  split
  · rfl
  · cases startNode? nodes with
    | none => rfl
    | some node =>
        simp only [Option.map_some, Node.start?_bare]
        cases node.start? with
        | none => rfl
        | some start => cases hasAction nodes <;> rfl

end Graph

/-! ## Plans -/

theorem canFuse_bare (edges : List Edge) (node next : Node) :
    canFuse (edges.map Edge.bare) node.bare next.bare = canFuse edges node next := by
  simp only [canFuse, Node.bridge?_bare, Node.call?_bare, Graph.hasEdge_bare]
  cases node.bridge? with
  | none => rfl
  | some bridge => cases next.call? <;> rfl

namespace FlowStep

theorem ids_bare (step : FlowStep) : step.bare.ids = step.ids := by
  cases step <;> rfl

theorem first_bare (step : FlowStep) : step.bare.first = step.first.bare := by
  cases step <;> rfl

end FlowStep

theorem Location.after_bare (location : Location) (node : Node) :
    location.after node.bare = location.after node := by
  simp only [Location.after, Node.bridge?_bare]
  cases node.bridge? <;> rfl

namespace Plan

theorem ofOrder_bare (order : List Node) (edges : List Edge) :
    ofOrder (order.map Node.bare) (edges.map Edge.bare) = (ofOrder order edges).bare := by
  have ids : (order.map Node.bare).map (·.id) = order.map (·.id) := by
    rw [List.map_map]
    rfl
  simp only [ofOrder, States.ofOrder, ids]
  rfl

theorem nextFrom_bare (edges : List Edge) (mayFuse : Bool) (rest : List Node) (states : States) :
    nextFrom (edges.map Edge.bare) mayFuse (rest.map Node.bare) states =
      ((nextFrom edges mayFuse rest states).1.map (Option.map FlowStep.bare),
        (nextFrom edges mayFuse rest states).2.1.map Node.bare,
        (nextFrom edges mayFuse rest states).2.2) := by
  induction rest generalizing states with
  | nil => rfl
  | cons node rest ih =>
      have id : node.bare.id = node.id := rfl
      simp only [List.map_cons, nextFrom, Node.isAction_bare, id]
      cases node.isAction with
      | false =>
          cases transition states node.id .done with
          | error fault => rfl
          | ok after => exact ih after
      | true =>
          cases rest with
          | nil => rfl
          | cons next after =>
              simp only [List.map_cons, canFuse_bare]
              cases mayFuse && canFuse edges node next with
              | false => rfl
              | true => cases transition states node.id .fused <;> rfl

theorem next_bare (plan : Plan) (mayFuse : Bool) : plan.bare.next mayFuse =
    ((plan.next mayFuse).1.map (Option.map FlowStep.bare), (plan.next mayFuse).2.bare) := by
  simp only [next, bare, nextFrom_bare]

theorem complete_bare (plan : Plan) (step : FlowStep) :
    plan.bare.complete step.bare = ((plan.complete step).1, (plan.complete step).2.bare) := by
  simp only [complete, FlowStep.ids_bare]
  rfl

end Plan

/-! ## Steps -/

namespace Engine

variable {σ : Type} (engine : Engine σ)

theorem performNode_bare (node : Node) (location : Location) :
    engine.performNode node.bare location = engine.performNode node location := by
  rcases node with ⟨_, _, _, _, _ | ⟨_ | _ | _, _⟩ | _, _, _, _⟩ <;> rfl

theorem quoteNode_bare (node : Node) (location : Location) :
    engine.quoteNode node.bare location = engine.quoteNode node location := by
  rcases node with ⟨_, _, _, _, _ | ⟨_ | _ | _, _⟩ | _, _, _, _⟩ <;> rfl

theorem performStep_bare (step : FlowStep) (location : Location) :
    engine.performStep step.bare location = engine.performStep step location := by
  cases step with
  | single node => exact engine.performNode_bare node location
  | fused first second =>
      simp only [FlowStep.bare, performStep, Node.bridge?_bare, Node.call?_bare, performNode_bare]
      cases first.bridge? with
      | none => rfl
      | some bridge => cases second.call? <;> rfl

theorem quoteStep_bare (step : FlowStep) (location : Location) :
    engine.quoteStep step.bare location = engine.quoteStep step location := by
  cases step with
  | single node => exact engine.quoteNode_bare node location
  | fused first second =>
      simp only [FlowStep.bare, quoteStep, Node.bridge?_bare, Node.call?_bare, quoteNode_bare]
      cases first.bridge? with
      | none => rfl
      | some bridge => cases second.call? <;> rfl

theorem performStepSafely_bare (step : FlowStep) (location : Location) (world : World σ) :
    engine.performStepSafely step.bare location world =
      engine.performStepSafely step location world := by
  simp only [performStepSafely, performStep_bare, FlowStep.ids_bare]

theorem quoteStepSafely_bare (step : FlowStep) (location : Location) (world : World σ) :
    engine.quoteStepSafely step.bare location world =
      engine.quoteStepSafely step location world := by
  simp only [quoteStepSafely, quoteStep_bare, FlowStep.ids_bare]

/-! ## Flows -/

theorem recasts_bare : engine.Recasts (fun _ => True) Plan.bare FlowStep.bare where
  next_eq plan mayFuse _ := plan.next_bare mayFuse
  complete_eq := Plan.complete_bare
  fits_next _ _ _ := trivial
  fits_complete _ _ _ := trivial
  ids_eq := FlowStep.ids_bare
  after_eq location step := by rw [FlowStep.first_bare, Location.after_bare]
  perform_eq := engine.performStepSafely_bare
  quote_eq := engine.quoteStepSafely_bare

theorem performFlow_bare (delay : Int) (observer : Option Observer) (nodes : List Node)
    (edges : List Edge) (world : World σ) :
    engine.performFlow delay observer (nodes.map Node.bare) (edges.map Edge.bare) world =
      engine.performFlow delay observer nodes edges world := by
  simp only [performFlow, Graph.requireRunnable_bare]
  cases Graph.requireRunnable nodes with
  | error cause => rfl
  | ok found =>
      simp only [Except.map, Graph.order_bare, Plan.ofOrder_bare, List.length_map]
      exact engine.recasts_bare.performSteps_eq delay observer _ _ trivial _ _ _

theorem quoteFlow_bare (rate : Binary64) (nodes : List Node) (edges : List Edge) (world : World σ) :
    engine.quoteFlow rate (nodes.map Node.bare) (edges.map Edge.bare) world =
      engine.quoteFlow rate nodes edges world := by
  simp only [quoteFlow, Graph.requireRunnable_bare]
  cases Graph.requireRunnable nodes with
  | error cause => rfl
  | ok found =>
      have start : Location.ofStart found.2.bare = Location.ofStart found.2 := rfl
      simp only [Except.map, Graph.order_bare, Plan.ofOrder_bare, List.length_map, start,
        engine.recasts_bare.quoteSteps_eq _ trivial]

/-- Whatever is on two drawings beside what a flow acts on, they have the same dry run and the same
run, and leave the same world: the same calls, drawn numbers, hashes, pauses and reports. -/
theorem flow_eq_of_alike (delay : Int) (observer : Option Observer) (rate : Binary64)
    {nodes others : List Node} {edges otherEdges : List Edge}
    (alikeNodes : List.Forall₂ Node.Alike nodes others)
    (alikeEdges : List.Forall₂ Edge.Alike edges otherEdges) (world : World σ) :
    engine.quoteFlow rate nodes edges world = engine.quoteFlow rate others otherEdges world ∧
      engine.performFlow delay observer nodes edges world =
        engine.performFlow delay observer others otherEdges world := by
  have sameNodes : nodes.map Node.bare = others.map Node.bare :=
    map_eq_of_alike Node.bare (fun _ _ alike => alike.bare_eq) alikeNodes
  have sameEdges : edges.map Edge.bare = otherEdges.map Edge.bare :=
    map_eq_of_alike Edge.bare (fun _ _ alike => alike.bare_eq) alikeEdges
  constructor
  · calc engine.quoteFlow rate nodes edges world
        = engine.quoteFlow rate (nodes.map Node.bare) (edges.map Edge.bare) world :=
          (engine.quoteFlow_bare rate nodes edges world).symm
      _ = engine.quoteFlow rate (others.map Node.bare) (otherEdges.map Edge.bare) world := by
          rw [sameNodes, sameEdges]
      _ = engine.quoteFlow rate others otherEdges world :=
          engine.quoteFlow_bare rate others otherEdges world
  · calc engine.performFlow delay observer nodes edges world
        = engine.performFlow delay observer (nodes.map Node.bare) (edges.map Edge.bare) world :=
          (engine.performFlow_bare delay observer nodes edges world).symm
      _ = engine.performFlow delay observer (others.map Node.bare) (otherEdges.map Edge.bare) world := by
          rw [sameNodes, sameEdges]
      _ = engine.performFlow delay observer others otherEdges world :=
          engine.performFlow_bare delay observer others otherEdges world

end Engine

/-! A drawing with marks of every kind, which all are without effect. -/

namespace Sample

def markedRole : Role → Role
  | .start own => .start { own with amount := some "9", userAddress := some "0xdef" }
  | .action (.bridge own) _ =>
      .action (.bridge { own with fromChain := some 80002, token := some .eth }) ⟨some "$9.00", some 9⟩
  | .action (.transfer own) _ =>
      .action (.transfer { own with chain := some 80002, token := some .eth }) ⟨none, some 9⟩
  | .action (.call own) _ =>
      .action (.call { own with chain := some 80002, token := some .eth, parameters := some [] })
        ⟨some "", none⟩
  | .finish _ => .finish ⟨some 80002, some .eth, some "9", some "done"⟩

def marked (node : Node) : Node :=
  { node with
    label := "Marked", badge := some .failed, role := markedRole node.role
    payloadExtras := [("toChain ", .int 80002)], extras := [("selected", .bool true)] }

def markedEdge (edge : Edge) : Edge :=
  { edge with
    id := "edge", sourceHandle := some "out", targetHandle := some "in", shape := some "step"
    animated := some true, extras := [("weight", .int 9)] }

theorem alike_marked (node : Node) : node.Alike (marked node) := by
  refine ⟨rfl, ?_⟩
  rcases node with ⟨_, _, _, _, _ | ⟨_ | _ | _, _⟩ | _, _, _, _⟩ <;>
    simp [marked, markedRole, Role.Alike]

end Sample

theorem Engine.flow_eq_of_alike_sample :
    Sample.engine.quoteFlow (.zero false) Sample.nodes Sample.edges (.fresh 0 ()) =
      Sample.engine.quoteFlow (.zero false) (Sample.nodes.map Sample.marked)
        (Sample.edges.map Sample.markedEdge) (.fresh 0 ()) ∧
    Sample.engine.performFlow 5 none Sample.nodes Sample.edges (.fresh 0 ()) =
      Sample.engine.performFlow 5 none (Sample.nodes.map Sample.marked)
        (Sample.edges.map Sample.markedEdge) (.fresh 0 ()) := by
  have nodes : List.Forall₂ Node.Alike Sample.nodes (Sample.nodes.map Sample.marked) := by
    rw [List.forall₂_map_right_iff, List.forall₂_same]
    exact fun node _ => Sample.alike_marked node
  have edges : List.Forall₂ Edge.Alike Sample.edges (Sample.edges.map Sample.markedEdge) := by
    rw [List.forall₂_map_right_iff, List.forall₂_same]
    exact fun _ _ => ⟨rfl, rfl⟩
  exact Sample.engine.flow_eq_of_alike 5 none (.zero false) nodes edges (.fresh 0 ())

end ChainFlow
