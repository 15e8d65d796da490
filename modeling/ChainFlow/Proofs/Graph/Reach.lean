import ChainFlow.Proofs.Graph.Walk
import ChainFlow.Proofs.Sample
import Mathlib.Logic.Relation

/-!
# What a walk reaches

The order of a drawing against the paths that its edges make. `Joined` is one edge between two ids
that nodes have, and a path is any number of them one after the other; an edge at an id that no node
has is on no path. A walk emits what lies on a path from its stack, since every id comes onto the
stack by an edge, and all of it, since what it has visited is closed under edges in the end.
-/

namespace ChainFlow.Graph

variable {nodes : List Node} {edges : List Edge}

def Known (nodes : List Node) (id : String) : Prop := ∃ node ∈ nodes, node.id = id

/-- Whether an edge leads from one id to another, both of them ids of nodes. -/
def Joined (nodes : List Node) (edges : List Edge) (source target : String) : Prop :=
  Known nodes source ∧ Known nodes target ∧
    ∃ edge ∈ edges, edge.source = source ∧ edge.target = target

theorem mem_targets {source target : String} :
    target ∈ targets edges source ↔ ∃ edge ∈ edges, edge.source = source ∧ edge.target = target := by
  simp [targets, and_assoc]

theorem known_of_node? {id : String} {node : Node} (found : node? nodes id = some node) :
    Known nodes id := ⟨node, node?_mem found, node?_id found⟩

theorem not_known_of_node? {id : String} (unknown : node? nodes id = none) : ¬Known nodes id := by
  rintro ⟨node, member, rfl⟩
  have differs := List.find?_eq_none.mp unknown node member
  simp at differs

/-- Induction along a walk, with one case for each way in which the stack can be taken up. -/
theorem walk_induction (nodes : List Node) (edges : List Edge) {motive : List String → List String → Prop}
    (nil : ∀ visited, motive visited [])
    (seen : ∀ visited id stack, visited.contains id = true → motive visited stack →
      motive visited (id :: stack))
    (unknown : ∀ visited id stack, node? nodes id = none → motive visited stack →
      motive visited (id :: stack))
    (fresh : ∀ visited id stack node, visited.contains id = false → node? nodes id = some node →
      motive (id :: visited) (targets edges id ++ stack) → motive visited (id :: stack))
    (visited stack : List String) : motive visited stack := by
  induction bound : pending edges visited stack using Nat.strongRecOn generalizing visited stack with
  | ind steps ih =>
      cases stack with
      | nil => exact nil visited
      | cons id stack =>
          have skipped := pending_skip edges visited stack id
          have shorter : motive visited stack := ih _ (by omega) visited stack rfl
          cases isSeen : visited.contains id with
          | true => exact seen visited id stack isSeen shorter
          | false =>
              have used := pending_visit edges stack isSeen
              cases found : node? nodes id with
              | none => exact unknown visited id stack found shorter
              | some node =>
                  exact fresh visited id stack node isSeen found (ih _ (by omega) _ _ rfl)

/-! ## Where emitted nodes come from -/

/-- A node is emitted for an id that was on the stack, or that an edge out of an earlier node has put
there. -/
theorem traced_walk (visited stack : List String) : ∀ before node after,
    walk nodes edges visited stack = before ++ node :: after →
      node.id ∈ stack ∨ ∃ earlier ∈ before, node.id ∈ targets edges earlier.id := by
  induction visited, stack using walk_induction nodes edges with
  | nil visited =>
      intro before node after split
      rw [walk_nil] at split
      exact absurd split (by simp)
  | seen visited id stack isSeen ih =>
      intro before node after split
      rw [walk_seen isSeen] at split
      exact (ih before node after split).imp_left (List.mem_cons_of_mem id)
  | unknown visited id stack isUnknown ih =>
      intro before node after split
      rw [walk_unknown isUnknown] at split
      exact (ih before node after split).imp_left (List.mem_cons_of_mem id)
  | fresh visited id stack first isFresh found ih =>
      intro before node after split
      rw [walk_fresh isFresh found] at split
      cases before with
      | nil =>
          obtain ⟨rfl, _⟩ := List.cons.inj split
          exact .inl (by rw [node?_id found]; exact List.mem_cons_self)
      | cons earliest before =>
          obtain ⟨rfl, later⟩ := List.cons.inj split
          rcases ih before node after later with onStack | ⟨earlier, member, target⟩
          · rcases List.mem_append.mp onStack with target | onStack
            · refine .inr ⟨first, List.mem_cons_self, ?_⟩
              rwa [node?_id found]
            · exact .inl (List.mem_cons_of_mem id onStack)
          · exact .inr ⟨earlier, List.mem_cons_of_mem first member, target⟩

/-- An emitted node is the one that its id stands for. -/
theorem node?_of_mem_walk (visited stack : List String) :
    ∀ node ∈ walk nodes edges visited stack, node? nodes node.id = some node := by
  induction visited, stack using walk_induction nodes edges with
  | nil visited => simp [walk_nil]
  | seen visited id stack isSeen ih => rwa [walk_seen isSeen]
  | unknown visited id stack isUnknown ih => rwa [walk_unknown isUnknown]
  | fresh visited id stack node isFresh found ih =>
      rw [walk_fresh isFresh found, List.forall_mem_cons, node?_id found]
      exact ⟨found, ih⟩

/-- Every emitted node lies on a path from an id on the stack. -/
theorem path_of_mem_walk (visited stack : List String) :
    ∀ node ∈ walk nodes edges visited stack, ∃ id ∈ stack, Known nodes id ∧
      Relation.ReflTransGen (Joined nodes edges) id node.id := by
  induction visited, stack using walk_induction nodes edges with
  | nil visited => simp [walk_nil]
  | seen visited id stack isSeen ih =>
      rw [walk_seen isSeen]
      intro node member
      obtain ⟨other, onStack, path⟩ := ih node member
      exact ⟨other, List.mem_cons_of_mem id onStack, path⟩
  | unknown visited id stack isUnknown ih =>
      rw [walk_unknown isUnknown]
      intro node member
      obtain ⟨other, onStack, path⟩ := ih node member
      exact ⟨other, List.mem_cons_of_mem id onStack, path⟩
  | fresh visited id stack node isFresh found ih =>
      have known : Known nodes id := known_of_node? found
      rw [walk_fresh isFresh found, List.forall_mem_cons]
      constructor
      · refine ⟨id, List.mem_cons_self, known, ?_⟩
        rw [node?_id found]
      · intro other member
        obtain ⟨onward, onStack, knownOnward, path⟩ := ih other member
        rcases List.mem_append.mp onStack with target | onStack
        · have joined : Joined nodes edges id onward := ⟨known, knownOnward, mem_targets.mp target⟩
          exact ⟨id, List.mem_cons_self, known, path.head joined⟩
        · exact ⟨onward, List.mem_cons_of_mem id onStack, knownOnward, path⟩

/-! ## What is emitted in the end -/

theorem mem_walk_of_mem_stack (visited stack : List String) : ∀ id ∈ stack, Known nodes id →
    id ∈ visited ∨ id ∈ (walk nodes edges visited stack).map (·.id) := by
  induction visited, stack using walk_induction nodes edges with
  | nil visited => simp
  | seen visited id stack isSeen ih =>
      rw [walk_seen isSeen, List.forall_mem_cons]
      exact ⟨fun _ => .inl (by simpa using isSeen), ih⟩
  | unknown visited id stack isUnknown ih =>
      rw [walk_unknown isUnknown, List.forall_mem_cons]
      exact ⟨fun known => absurd known (not_known_of_node? isUnknown), ih⟩
  | fresh visited id stack node isFresh found ih =>
      rw [walk_fresh isFresh found, List.map_cons, node?_id found]
      intro other member known
      by_cases here : other = id
      · exact .inr (by rw [here]; exact List.mem_cons_self)
      · have onStack : other ∈ stack := (List.mem_cons.mp member).resolve_left here
        rcases ih other (List.mem_append_right _ onStack) known with isVisited | emitted
        · exact .inl ((List.mem_cons.mp isVisited).resolve_left here)
        · exact .inr (List.mem_cons_of_mem id emitted)

/-- Once a walk is over, an edge out of an emitted node leads to what was visited before or has been
emitted. -/
theorem closed_walk (visited stack : List String) : ∀ node ∈ walk nodes edges visited stack,
    ∀ target ∈ targets edges node.id, Known nodes target →
      target ∈ visited ∨ target ∈ (walk nodes edges visited stack).map (·.id) := by
  induction visited, stack using walk_induction nodes edges with
  | nil visited => simp [walk_nil]
  | seen visited id stack isSeen ih => rwa [walk_seen isSeen]
  | unknown visited id stack isUnknown ih => rwa [walk_unknown isUnknown]
  | fresh visited id stack node isFresh found ih =>
      have reached := @mem_walk_of_mem_stack nodes edges (id :: visited) (targets edges id ++ stack)
      rw [walk_fresh isFresh found, List.map_cons, node?_id found]
      intro other member target isTarget known
      -- The targets of the node itself are on the stack, those of the others are so by induction.
      have later : target ∈ id :: visited ∨
          target ∈ (walk nodes edges (id :: visited) (targets edges id ++ stack)).map (·.id) := by
        rcases List.mem_cons.mp member with rfl | member
        · rw [node?_id found] at isTarget
          exact reached target (List.mem_append_left stack isTarget) known
        · exact ih other member target isTarget known
      rcases later with isVisited | emitted
      · rcases List.mem_cons.mp isVisited with rfl | isVisited
        · exact .inr List.mem_cons_self
        · exact .inl isVisited
      · exact .inr (List.mem_cons_of_mem id emitted)

/-! ## Orders -/

/-- What an order emits from a start: the ids on the paths from it, each once and the start first, and
each other one after a node with an edge to it. -/
structure Reaches (nodes : List Node) (edges : List Edge) (start : String) (order : List Node) :
    Prop where
  distinct : (order.map (·.id)).Nodup
  head : (order.map (·.id)).head? = some start
  mem_iff : ∀ id, id ∈ order.map (·.id) ↔ Relation.ReflTransGen (Joined nodes edges) start id
  traced : ∀ first before node after, order = first :: before ++ node :: after →
    ∃ earlier ∈ first :: before, ∃ edge ∈ edges, edge.source = earlier.id ∧ edge.target = node.id

theorem traced_order {start : Node} (found : startNode? nodes = some start)
    {before after : List Node} {node : Node} (split : order nodes edges = before ++ node :: after) :
    node.id = start.id ∨
      ∃ earlier ∈ before, ∃ edge ∈ edges, edge.source = earlier.id ∧ edge.target = node.id := by
  rw [order_eq_walk found] at split
  rcases traced_walk [] [start.id] before node after split with onStack | ⟨earlier, member, target⟩
  · exact .inl (List.mem_singleton.mp onStack)
  · exact .inr ⟨earlier, member, mem_targets.mp target⟩

theorem order_head {start : Node} (found : startNode? nodes = some start) :
    ((order nodes edges).map (·.id)).head? = some start.id := by
  have member := List.mem_of_find?_eq_some found
  cases first : node? nodes start.id with
  | none => exact absurd ⟨start, member, rfl⟩ (not_known_of_node? first)
  | some node =>
      rw [order_eq_walk found, walk_fresh rfl first, List.map_cons, List.head?_cons, node?_id first]

theorem mem_order_iff {start : Node} (found : startNode? nodes = some start) (id : String) :
    id ∈ (order nodes edges).map (·.id) ↔
      Relation.ReflTransGen (Joined nodes edges) start.id id := by
  rw [order_eq_walk found]
  constructor
  · intro emitted
    obtain ⟨node, member, rfl⟩ := List.mem_map.mp emitted
    obtain ⟨origin, onStack, _, path⟩ := path_of_mem_walk [] [start.id] node member
    rwa [List.mem_singleton.mp onStack] at path
  · intro path
    induction path with
    | refl =>
        have known : Known nodes start.id := ⟨start, List.mem_of_find?_eq_some found, rfl⟩
        exact (mem_walk_of_mem_stack [] [start.id] start.id List.mem_cons_self known).resolve_left
          (by simp)
    | tail _ joined ih =>
        obtain ⟨_, known, edge, drawn, source, target⟩ := joined
        obtain ⟨node, member, same⟩ := List.mem_map.mp ih
        have isTarget := mem_targets.mpr ⟨edge, drawn, source, target⟩
        rw [← same] at isTarget
        exact (closed_walk [] [start.id] node member _ isTarget known).resolve_left (by simp)

/-- A drawing with a start runs exactly what can be reached from its first start, each id once, and
comes to every other id by an edge from one that it has come to before. -/
theorem order_reaches (edges : List Edge) {start : Node} (found : startNode? nodes = some start) :
    Reaches nodes edges start.id (order nodes edges) := by
  constructor
  · exact order_distinct found
  · exact order_head found
  · exact mem_order_iff found
  · intro first before node after split
    have split' : order nodes edges = (first :: before) ++ node :: after := split
    rcases traced_order found split' with isStart | traced
    · -- The id of the start is that of the first node, and no later node has it.
      have distinct := @order_distinct nodes edges start found
      have head := @order_head nodes edges start found
      rw [split'] at distinct head
      have same : first.id = node.id := by
        rw [isStart]
        exact Option.some.inj head
      rw [List.map_append] at distinct
      exact absurd same ((List.nodup_append.mp distinct).2.2 first.id List.mem_cons_self node.id
        List.mem_cons_self)
    · exact traced

theorem order_reaches_sample : startNode? Sample.nodes = some (Sample.start "s" 84532) ∧
    Reaches Sample.nodes Sample.edges "s" (order Sample.nodes Sample.edges) ∧
    (order Sample.nodes Sample.edges).map (·.id) = ["s", "b", "c", "e", "t"] := by
  have found : startNode? Sample.nodes = some (Sample.start "s" 84532) := rfl
  refine ⟨found, order_reaches Sample.edges found, ?_⟩
  decide

end ChainFlow.Graph
