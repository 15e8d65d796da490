import ChainFlow.Proofs.Flow.Recasting
import ChainFlow.Proofs.Flow.Visits
import ChainFlow.Proofs.Graph.Alike

/-!
# Flows of drawings drawn otherwise

What a flow does is known from the order of its drawing and from which nodes of that order an edge
joins. So it does not matter in which order nodes are drawn, nor how edges out of different nodes are
mixed (`flow_of_perm`); and what cannot be reached from the start, and edges that lead nowhere, can be
left out (`flow_of_filter`).
-/

namespace ChainFlow

variable {edges edges' : List Edge}

/-! ## Plans with other edges -/

theorem Graph.hasEdge_iff {source target : String} :
    hasEdge edges source target = true ↔ target ∈ targets edges source := by
  simp [hasEdge, Edge.joins, mem_targets]

/-- Whether edges join the same of some nodes as others do. -/
def JoinAlike (edges edges' : List Edge) (nodes : List Node) : Prop :=
  ∀ node ∈ nodes, ∀ next ∈ nodes,
    Graph.hasEdge edges' node.id next.id = Graph.hasEdge edges node.id next.id

theorem JoinAlike.subset {nodes fewer : List Node} (alike : JoinAlike edges edges' nodes)
    (subset : fewer ⊆ nodes) : JoinAlike edges edges' fewer :=
  fun node member next after => alike node (subset member) next (subset after)

namespace Plan

theorem nextFrom_suffix (edges : List Edge) (mayFuse : Bool) (rest : List Node) (states : States) :
    (nextFrom edges mayFuse rest states).2.1 <:+ rest := by
  induction rest generalizing states with
  | nil => exact List.suffix_rfl
  | cons node rest ih =>
      unfold nextFrom
      split
      · cases transition states node.id .done with
        | ok after => exact (ih after).trans (List.suffix_cons node rest)
        | error fault => exact List.suffix_rfl
      · cases rest with
        | nil => exact List.nil_suffix
        | cons next after =>
            dsimp only
            split
            · cases transition states node.id .fused with
              | ok states => exact (List.suffix_cons next after).trans (List.suffix_cons node _)
              | error fault => exact List.suffix_rfl
            · exact List.suffix_cons node _

theorem nextFrom_of_joinAlike (mayFuse : Bool) {rest : List Node} (states : States)
    (alike : JoinAlike edges edges' rest) :
    nextFrom edges' mayFuse rest states = nextFrom edges mayFuse rest states := by
  induction rest generalizing states with
  | nil => rfl
  | cons node rest ih =>
      have later states := ih states (alike.subset (List.subset_cons_self node rest))
      unfold nextFrom
      simp only [later]
      cases rest with
      | nil => rfl
      | cons next after =>
          have joins : canFuse edges' node next = canFuse edges node next := by
            unfold canFuse
            rw [alike node List.mem_cons_self next (List.mem_cons_of_mem _ List.mem_cons_self)]
          simp only [joins]

def withEdges (edges : List Edge) (plan : Plan) : Plan := { plan with edges }

end Plan

namespace Engine

variable {σ : Type} (engine : Engine σ)

theorem recasts_withEdges (edges' : List Edge) :
    engine.Recasts (fun plan => JoinAlike plan.edges edges' plan.rest) (Plan.withEdges edges') id where
  next_eq plan mayFuse alike := by
    simp only [Plan.next, Plan.withEdges, Plan.nextFrom_of_joinAlike mayFuse plan.states alike]
    cases (Plan.nextFrom plan.edges mayFuse plan.rest plan.states).1 with
    | error fault => rfl
    | ok step => cases step <;> rfl
  complete_eq _ _ := rfl
  fits_next plan mayFuse alike :=
    alike.subset (Plan.nextFrom_suffix plan.edges mayFuse plan.rest plan.states).subset
  fits_complete _ _ alike := alike
  ids_eq _ := rfl
  after_eq _ _ := rfl
  perform_eq _ _ _ := rfl
  quote_eq _ _ _ := rfl

variable {nodes nodes' : List Node}

/-- Drawings that start alike, have the same order and join the same nodes of it have the same runs and
the same dry runs. -/
theorem flow_of_order_eq (runnable : Graph.requireRunnable nodes' = Graph.requireRunnable nodes)
    (sameOrder : Graph.order nodes' edges' = Graph.order nodes edges)
    (alike : JoinAlike edges edges' (Graph.order nodes edges)) (delay : Int)
    (observer : Option Observer) (rate : Binary64) (world : World σ) :
    engine.performFlow delay observer nodes' edges' world =
        engine.performFlow delay observer nodes edges world ∧
      engine.quoteFlow rate nodes' edges' world = engine.quoteFlow rate nodes edges world := by
  have recasts := engine.recasts_withEdges edges'
  have plan : Plan.ofOrder (Graph.order nodes edges) edges' =
    (Plan.ofOrder (Graph.order nodes edges) edges).withEdges edges' := rfl
  have fit : JoinAlike (Plan.ofOrder (Graph.order nodes edges) edges).edges edges'
    (Plan.ofOrder (Graph.order nodes edges) edges).rest := alike
  constructor
  · simp only [performFlow, runnable, sameOrder, plan]
    cases Graph.requireRunnable nodes with
    | error cause => rfl
    | ok found => exact recasts.performSteps_eq delay observer _ _ fit _ _ _
  · simp only [quoteFlow, runnable, sameOrder, plan]
    cases Graph.requireRunnable nodes with
    | error cause => rfl
    | ok found => simp only [recasts.quoteSteps_eq _ fit]

end Engine

/-! ## Drawings in another order -/

/-- Nodes can be drawn in any order, and edges in any in which those out of each node lead to the same
targets one after the other: the order stays the same, and all runs and dry runs do. -/
theorem flow_of_perm {nodes nodes' : List Node} (distinct : (nodes.map (·.id)).Nodup)
    (single : nodes.countP Node.isStart = 1) (reordered : nodes.Perm nodes')
    (sameTargets : ∀ source, Graph.targets edges' source = Graph.targets edges source) :
    Graph.order nodes' edges' = Graph.order nodes edges ∧
      ∀ {σ : Type} (engine : Engine σ) (delay : Int) (observer : Option Observer) (rate : Binary64)
        (world : World σ),
        engine.performFlow delay observer nodes' edges' world =
            engine.performFlow delay observer nodes edges world ∧
          engine.quoteFlow rate nodes' edges' world = engine.quoteFlow rate nodes edges world := by
  have sameOrder := Graph.order_of_perm distinct single reordered sameTargets
  have runnable := Graph.requireRunnable_of_perm single reordered
  refine ⟨sameOrder, fun engine delay observer rate world =>
    engine.flow_of_order_eq runnable sameOrder ?_ delay observer rate world⟩
  intro node _ next _
  rw [Bool.eq_iff_iff, Graph.hasEdge_iff, Graph.hasEdge_iff, sameTargets]

/-- The nodes of the sample drawing that have an id of their own, and one start. -/
def Sample.distinctNodes : List Node :=
  [start "s" 84532, bridge "b" 11155111 "5", call "c" .stake "2.5", transfer "t" "1" "0xabc",
    finish "e"]

/-- The sample edges drawn in another order, one of them with a name and a handle. -/
def Sample.mixedEdges : List Edge :=
  [edge "b" "c", edge "c" "s", { edge "s" "b" with id := "first", sourceHandle := some "out" },
    edge "b" "ghost", edge "c" "c", edge "b" "e", edge "s" "t", edge "b" "c"]

theorem flow_of_perm_sample : (Sample.distinctNodes.map (·.id)).Nodup ∧
    Sample.distinctNodes.countP Node.isStart = 1 ∧
    Sample.distinctNodes.Perm Sample.distinctNodes.reverse ∧
    (∀ source, Graph.targets Sample.mixedEdges source = Graph.targets Sample.edges source) ∧
    (Graph.order Sample.distinctNodes Sample.edges).map (·.id) = ["s", "b", "c", "e", "t"] ∧
    Graph.order Sample.distinctNodes.reverse Sample.mixedEdges =
      Graph.order Sample.distinctNodes Sample.edges ∧
    ∀ {σ : Type} (engine : Engine σ) (delay : Int) (observer : Option Observer) (rate : Binary64)
      (world : World σ),
      engine.performFlow delay observer Sample.distinctNodes.reverse Sample.mixedEdges world =
          engine.performFlow delay observer Sample.distinctNodes Sample.edges world ∧
        engine.quoteFlow rate Sample.distinctNodes.reverse Sample.mixedEdges world =
          engine.quoteFlow rate Sample.distinctNodes Sample.edges world := by
  have distinct : (Sample.distinctNodes.map (·.id)).Nodup := by decide
  have single : Sample.distinctNodes.countP Node.isStart = 1 := by decide
  have reordered := (List.reverse_perm Sample.distinctNodes).symm
  have sameTargets : ∀ source,
      Graph.targets Sample.mixedEdges source = Graph.targets Sample.edges source := by
    intro source
    by_cases leaves : source ∈ ["s", "b", "c"]
    · rcases List.mem_cons.mp leaves with rfl | leaves
      · rfl
      · rcases List.mem_pair.mp leaves with rfl | rfl <;> rfl
    · have none : ∀ drawn : List Edge, (∀ edge ∈ drawn, edge.source ∈ ["s", "b", "c"]) →
          Graph.targets drawn source = [] := fun drawn among =>
        List.map_eq_nil_iff.mpr <| List.filter_eq_nil_iff.mpr fun edge member same =>
          leaves (eq_of_beq same ▸ among edge member)
      rw [none _ (by decide), none _ (by decide)]
  exact ⟨distinct, single, reordered, sameTargets, by decide,
    flow_of_perm distinct single reordered sameTargets⟩

/-! ## Drawings without what is not reached -/

theorem Tour.idle_of_passive {σ α : Type} {take : FlowStep → Location → World σ → List α × World σ}
    {rest : List Node} {location : Location} {world final : World σ} {visits : List (Visit σ α)}
    (tour : Tour take edges rest location world visits final)
    (passive : rest.filter Node.isAction = []) : Idle world final := by
  cases tour with
  | ended idle => exact idle
  | @went mayFuse rest later step location world opened next final visits issues idle telling after =>
      rw [issues.actions_eq] at passive
      cases step <;> cases passive

namespace Engine

variable {σ : Type} (engine : Engine σ)

/-- With nothing to do in the order of a drawing nothing is done, whether or not it can be run. -/
theorem idle_of_passive {nodes : List Node}
    (passive : (Graph.order nodes edges).filter Node.isAction = []) (delay : Int)
    (observer : Option Observer) (rate : Binary64) (world : World σ) :
    Idle world (engine.performFlow delay observer nodes edges world).2 ∧
      Idle world (engine.quoteFlow rate nodes edges world).2 := by
  cases runnable : Graph.requireRunnable nodes with
  | error cause =>
      simp only [performFlow, quoteFlow, runnable]
      exact ⟨idle_abort _ _ _, rfl, rfl, rfl⟩
  | ok found =>
      have run := (engine.recounts_performFlow runnable delay observer edges world).tour
      exact ⟨run.idle_of_passive passive,
        (engine.tour_quoteFlow runnable rate edges world).1.idle_of_passive passive⟩

/-- A drawing does what one with less in it does: the same runs and dry runs if the smaller one can be
run, and nothing if it cannot. -/
structure Shrinks (nodes fewer : List Node) (edges left : List Edge) (delay : Int)
    (observer : Option Observer) (rate : Binary64) (world : World σ) : Prop where
  perform_eq : ∀ found, Graph.requireRunnable fewer = .ok found →
    engine.performFlow delay observer fewer left world =
      engine.performFlow delay observer nodes edges world
  quote_eq : ∀ found, Graph.requireRunnable fewer = .ok found →
    engine.quoteFlow rate fewer left world = engine.quoteFlow rate nodes edges world
  idle : ∀ cause, Graph.requireRunnable fewer = .error cause →
    Idle world (engine.performFlow delay observer nodes edges world).2 ∧
      Idle world (engine.quoteFlow rate nodes edges world).2
  idle' : ∀ cause, Graph.requireRunnable fewer = .error cause →
    Idle world (engine.performFlow delay observer fewer left world).2 ∧
      Idle world (engine.quoteFlow rate fewer left world).2

end Engine

/-- The order of a drawing is in order already; and nodes to which no path leads from the start, and
edges that do not join two nodes of the order, can be left out of the drawing, all of them or some,
without a change to its order or to what its runs and dry runs do. -/
theorem flow_of_filter {nodes : List Node} {start : Node} (distinct : (nodes.map (·.id)).Nodup)
    (found : Graph.startNode? nodes = some start) (edges : List Edge) :
    Graph.order (Graph.order nodes edges) edges = Graph.order nodes edges ∧
      ∀ (keepNode : Node → Bool) (keepEdge : Edge → Bool),
        (∀ node ∈ nodes, Relation.ReflTransGen (Graph.Joined nodes edges) start.id node.id →
          keepNode node = true) →
        (∀ edge ∈ edges, edge.source ∈ (Graph.order nodes edges).map (·.id) →
          edge.target ∈ (Graph.order nodes edges).map (·.id) → keepEdge edge = true) →
        Graph.order (nodes.filter keepNode) (edges.filter keepEdge) = Graph.order nodes edges ∧
          ∀ {σ : Type} (engine : Engine σ) (delay : Int) (observer : Option Observer)
            (rate : Binary64) (world : World σ),
            engine.Shrinks nodes (nodes.filter keepNode) edges (edges.filter keepEdge) delay observer
              rate world := by
  refine ⟨Graph.order_order found distinct edges, fun keepNode keepEdge keepsNodes keepsEdges => ?_⟩
  have keepsEmitted : ∀ node ∈ nodes, Graph.emits nodes edges node.id = true → keepNode node = true :=
    fun node member inside => keepsNodes node member ((Graph.emits_iff found).mp inside)
  have keepsJoining : ∀ edge ∈ edges, Graph.emits nodes edges edge.source = true →
      Graph.emits nodes edges edge.target = true → keepEdge edge = true :=
    fun edge drawn leaves leads => keepsEdges edge drawn (Graph.emits_iff_mem.mp leaves)
      (Graph.emits_iff_mem.mp leads)
  have sameOrder := Graph.order_filter found distinct keepsEmitted keepsJoining
  have found' := Graph.startNode?_filter found
    (keepsEmitted start (List.mem_of_find?_eq_some found) (Graph.emits_start found edges))
  have alike : JoinAlike edges (edges.filter keepEdge) (Graph.order nodes edges) := by
    intro node member next after
    rw [Bool.eq_iff_iff, Graph.hasEdge_iff, Graph.hasEdge_iff, Graph.mem_targets, Graph.mem_targets]
    refine ⟨fun ⟨edge, drawn, joins⟩ => ⟨edge, List.mem_of_mem_filter drawn, joins⟩, ?_⟩
    rintro ⟨edge, drawn, leaves, leads⟩
    refine ⟨edge, List.mem_filter.mpr ⟨drawn, keepsEdges edge drawn ?_ ?_⟩, leaves, leads⟩
    · exact leaves ▸ List.mem_map_of_mem member
    · exact leads ▸ List.mem_map_of_mem after
  have passive : ∀ cause, Graph.requireRunnable (nodes.filter keepNode) = .error cause →
      (Graph.order nodes edges).filter Node.isAction = [] := by
    intro cause unrunnable
    rw [← sameOrder]
    exact Graph.passive_of_unrunnable found' unrunnable
  refine ⟨sameOrder, fun engine delay observer rate world => ?_⟩
  have same : ∀ result, Graph.requireRunnable (nodes.filter keepNode) = .ok result → _ :=
    fun result runnable => engine.flow_of_order_eq
      (Graph.requireRunnable_of_subset (List.filter_subset_self _) found found' runnable).symm sameOrder alike
      delay observer rate world
  exact {
    perform_eq := fun result runnable => (same result runnable).1
    quote_eq := fun result runnable => (same result runnable).2
    idle := fun cause unrunnable =>
      engine.idle_of_passive (passive cause unrunnable) delay observer rate world
    idle' := fun cause unrunnable =>
      engine.idle_of_passive (sameOrder ▸ passive cause unrunnable) delay observer rate world }

/-- The sample drawing with another start, a bridge behind it and edges out of both. -/
def Sample.islandNodes : List Node :=
  distinctNodes ++ [start "x" 80002, bridge "y" 11155111 "1"]

def Sample.islandEdges : List Edge := Sample.edges ++ [edge "x" "y", edge "y" "b"]

theorem flow_of_filter_island :
    (Graph.order Sample.islandNodes Sample.islandEdges).map (·.id) = ["s", "b", "c", "e", "t"] ∧
      Graph.order (Graph.order Sample.islandNodes Sample.islandEdges) Sample.islandEdges =
        Graph.order Sample.islandNodes Sample.islandEdges ∧
      (Sample.islandNodes.filter (fun node => node.id != "x" && node.id != "y")).map (·.id) =
        ["s", "b", "c", "t", "e"] ∧
      ∀ {σ : Type} (engine : Engine σ) (delay : Int) (observer : Option Observer) (rate : Binary64)
        (world : World σ),
        engine.Shrinks Sample.islandNodes
          (Sample.islandNodes.filter fun node => node.id != "x" && node.id != "y") Sample.islandEdges
          (Sample.islandEdges.filter fun edge =>
            edge.source != "x" && edge.source != "y" && edge.target != "ghost")
          delay observer rate world := by
  have distinct : (Sample.islandNodes.map (·.id)).Nodup := by decide
  have found : Graph.startNode? Sample.islandNodes = some (Sample.start "s" 84532) := rfl
  have emitted : (Graph.order Sample.islandNodes Sample.islandEdges).map (·.id) =
    ["s", "b", "c", "e", "t"] := by decide
  have result := flow_of_filter distinct found Sample.islandEdges
  refine ⟨emitted, result.1, by decide, (result.2 _ _ ?_ ?_).2⟩
  · intro node _ path
    have inside := (Graph.mem_order_iff found node.id).mpr path
    rw [emitted] at inside
    have kept : ∀ id ∈ ["s", "b", "c", "e", "t"], (id != "x" && id != "y") = true := by decide
    exact kept node.id inside
  · rw [emitted]
    decide

end ChainFlow
