import ChainFlow.Proofs.Graph.Alike
import ChainFlow.Proofs.Graph.Preorder

/-!
# What comes right after a node

After a node a walk takes the first branch that is new at it: `branch?` is the first edge out of the
node to another one that the walk has not come to before. Without such an edge the walk goes on
elsewhere, and then no edge leads from the node to the next one: it would have been a branch.
-/

namespace ChainFlow.Graph

variable {nodes : List Node} {edges : List Edge}

/-- Whether an edge leads out of a node to a known one, other than the node and those before it. -/
def opens (nodes before : List Node) (node : Node) (edge : Edge) : Bool :=
  edge.source == node.id && edge.target != node.id && !before.any (·.id == edge.target) &&
    (node? nodes edge.target).isSome

/-- The first edge, in the order of the edges, that opens a branch at a node. -/
def branch? (nodes : List Node) (edges : List Edge) (before : List Node) (node : Node) : Option Edge :=
  edges.find? (opens nodes before node)

theorem opens_iff {before : List Node} {node : Node} {edge : Edge} :
    opens nodes before node edge = true ↔ edge.source = node.id ∧ edge.target ≠ node.id ∧
      edge.target ∉ before.map (·.id) ∧ Known nodes edge.target := by
  simp [opens, Known, node?, and_assoc]

theorem mem_marked {visited : List String} {emitted : List Node} {id : String} :
    id ∈ marked visited emitted ↔ id ∈ visited ∨ id ∈ emitted.map (·.id) := by
  induction emitted generalizing visited with
  | nil => simp [marked]
  | cons node emitted ih =>
      refine ih.trans ?_
      rw [List.mem_cons, List.map_cons, List.mem_cons, or_left_comm, or_assoc]

theorem find?_targets (source : String) (takes : String → Bool) :
    (targets edges source).find? takes =
      (edges.find? fun edge => edge.source == source && takes edge.target).map (·.target) := by
  rw [targets, List.find?_map, List.find?_filter]
  refine congrArg _ (congrArg (edges.find? ·) (funext fun edge => ?_))
  rw [Bool.decide_and, Bool.decide_eq_true, Bool.decide_eq_true]
  rfl

/-- A walk begins at the first id on its stack that is new and has a node. -/
theorem head?_walk (visited stack : List String) :
    (walk nodes edges visited stack).head? =
      (stack.find? fun id => !visited.contains id && (node? nodes id).isSome).bind (node? nodes) := by
  induction stack with
  | nil => rw [walk_nil]; rfl
  | cons id stack ih =>
      cases seen : visited.contains id with
      | true => rw [walk_seen seen, ih, List.find?_cons_of_neg (by simp [List.contains_iff_mem.mp seen])]
      | false =>
          cases found : node? nodes id with
          | none => rw [walk_unknown found, ih, List.find?_cons_of_neg (by simp [found])]
          | some node =>
              rw [walk_fresh seen found, List.find?_cons_of_pos (by simp only [seen, found]; rfl)]
              exact found.symm

/-- After a node a walk has the targets of its edges on top of its stack. -/
theorem walk_split (visited stack : List String) : ∀ before node after,
    walk nodes edges visited stack = before ++ node :: after →
      ∃ later, after =
        walk nodes edges (node.id :: marked visited before) (targets edges node.id ++ later) := by
  induction visited, stack using walk_induction nodes edges with
  | nil visited =>
      intro before node after split
      rw [walk_nil] at split
      exact absurd split (by simp)
  | seen visited id stack isSeen ih => rwa [walk_seen isSeen]
  | unknown visited id stack isUnknown ih => rwa [walk_unknown isUnknown]
  | fresh visited id stack first isFresh found ih =>
      intro before node after split
      rw [walk_fresh isFresh found] at split
      obtain rfl := node?_id found
      cases before with
      | nil =>
          obtain ⟨rfl, rfl⟩ := List.cons.inj split
          exact ⟨stack, rfl⟩
      | cons earliest before =>
          obtain ⟨rfl, later⟩ := List.cons.inj split
          exact ih before node after later

section

variable {start node : Node} {before after : List Node} (found : startNode? nodes = some start)
  (split : order nodes edges = before ++ node :: after)

include found split

/-- The branch that is open at a node is taken right after it. -/
theorem head?_of_branch? {edge : Edge} (branch : branch? nodes edges before node = some edge) :
    after.head? = node? nodes edge.target := by
  rw [order_eq_walk found] at split
  obtain ⟨later, rfl⟩ := walk_split [] [start.id] before node after split
  have taken : (edges.find? fun edge => edge.source == node.id &&
      (!(node.id :: marked [] before).contains edge.target && (node? nodes edge.target).isSome)) =
        some edge := by
    rw [← branch, branch?]
    congr 1
    funext edge
    rw [Bool.eq_iff_iff, opens_iff]
    simp [mem_marked, Known, node?, and_assoc]
  rw [head?_walk, List.find?_append, find?_targets, taken]
  rfl

/-- The node right after another is one to which an edge leads from there exactly if it is at the
branch that is open there. -/
theorem next_joined_iff (next : Node) :
    (∃ edge ∈ edges, edge.source = node.id ∧ edge.target = next.id) ∧ after.head? = some next ↔
      ∃ edge, branch? nodes edges before node = some edge ∧ node? nodes edge.target = some next := by
  constructor
  · rintro ⟨⟨edge, drawn, leaves, leads⟩, head⟩
    have own : node? nodes next.id = some next := by
      refine @node?_of_mem_order nodes edges start found next ?_
      rw [split]
      exact List.mem_append_right _ (List.mem_cons_of_mem _ (List.mem_of_head? head))
    -- The next node is new, so the edge to it opens a branch, though perhaps not as the first.
    have isOpen : opens nodes before node edge = true := by
      have distinct := @order_distinct nodes edges start found
      obtain ⟨rest, rfl⟩ : ∃ rest, after = next :: rest := List.head?_eq_some_iff.mp head
      rw [split, List.map_append, List.nodup_append] at distinct
      obtain ⟨_, distinct, apart⟩ := distinct
      rw [List.map_cons, List.nodup_cons] at distinct
      refine opens_iff.mpr ⟨leaves, ?_, fun earlier => ?_, leads ▸ known_of_node? own⟩
      · rw [leads]
        exact fun same => distinct.1 (same ▸ List.mem_cons_self)
      · exact apart _ earlier next.id (List.mem_cons_of_mem _ List.mem_cons_self) leads
    cases branch : branch? nodes edges before node with
    | none => exact absurd isOpen (List.find?_eq_none.mp branch edge drawn)
    | some first => exact ⟨first, rfl, (head?_of_branch? found split branch).symm.trans head⟩
  · rintro ⟨edge, branch, leads⟩
    have isOpen := opens_iff.mp (List.find?_some branch)
    refine ⟨⟨edge, List.mem_of_find?_eq_some branch, isOpen.1, (node?_id leads).symm⟩, ?_⟩
    exact (head?_of_branch? found split branch).trans leads

end

end ChainFlow.Graph
