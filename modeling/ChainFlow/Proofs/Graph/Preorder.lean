import ChainFlow.Proofs.Graph.Walk
import ChainFlow.Proofs.Sample

/-!
# The walk as a recursion

`visit` and `visitEach` say recursively what a depth-first walk is: a node comes first, then all that
is reached through its first edge, then through its second, and so on. One list of visited ids goes
through all of it. The walk with a stack emits the same nodes in the same order: an id on the stack
is a call of `visit` that is still to be made.
-/

namespace ChainFlow.Graph

variable {nodes : List Node} {edges : List Edge}

/-- The ids visited once some nodes have been emitted. -/
def marked (visited : List String) (emitted : List Node) : List String :=
  emitted.foldl (fun visited node => node.id :: visited) visited

/-- How many nodes have an id that is not visited. -/
def unvisited (nodes : List Node) (visited : List String) : Nat :=
  nodes.countP fun node => !visited.contains node.id

theorem marked_append (visited : List String) (first second : List Node) :
    marked visited (first ++ second) = marked (marked visited first) second := List.foldl_append

theorem unvisited_cons_le (nodes : List Node) (visited : List String) (id : String) :
    unvisited nodes (id :: visited) ≤ unvisited nodes visited := by
  apply List.countP_mono_left
  intro node _ fresh
  simp_all

theorem unvisited_marked_le (visited : List String) (emitted : List Node) :
    unvisited nodes (marked visited emitted) ≤ unvisited nodes visited := by
  induction emitted generalizing visited with
  | nil => exact Nat.le_refl _
  | cons node emitted ih =>
      exact Nat.le_trans (ih (node.id :: visited)) (unvisited_cons_le nodes visited node.id)

theorem unvisited_cons_lt {visited : List String} {id : String} {node : Node}
    (fresh : ¬visited.contains id = true) (found : node? nodes id = some node) :
    unvisited nodes (id :: visited) < unvisited nodes visited := by
  obtain ⟨before, after, rfl⟩ := List.append_of_mem (node?_mem found)
  have left := unvisited_cons_le before visited id
  have right := unvisited_cons_le after visited id
  have own := node?_id found
  simp only [Bool.not_eq_true] at fresh
  simp only [unvisited, List.countP_append, List.countP_cons, own, List.contains_cons, fresh] at left right ⊢
  simp only [beq_self_eq_true, Bool.true_or, Bool.not_true, Bool.not_false, Bool.false_eq_true,
    reduceIte]
  omega

mutual

/-- The walk from an id: nothing if it is visited or no node has it; otherwise its node and the walk
along each of its edges. -/
def visit (nodes : List Node) (edges : List Edge) (visited : List String) (id : String) :
    List Node :=
  if _ : visited.contains id then []
  else
    match _ : node? nodes id with
    | none => []
    | some node => node :: visitEach nodes edges (id :: visited) (targets edges id)
termination_by (unvisited nodes visited, 0)
decreasing_by exact Prod.Lex.left _ _ (unvisited_cons_lt ‹_› ‹_›)

/-- The walks from some ids, one after the other. What one of them emits is visited for the next. -/
def visitEach (nodes : List Node) (edges : List Edge) (visited : List String) :
    List String → List Node
  | [] => []
  | id :: rest =>
    let branch := visit nodes edges visited id
    branch ++ visitEach nodes edges (marked visited branch) rest
termination_by ids => (unvisited nodes visited, ids.length + 1)
decreasing_by
  · exact Prod.Lex.right _ (by omega)
  · rcases Nat.lt_or_eq_of_le (unvisited_marked_le visited _) with less | same
    · exact Prod.Lex.left _ _ less
    · rw [same]
      exact Prod.Lex.right _ (by simp)

end

mutual

theorem walk_cons (visited stack : List String) (id : String) :
    walk nodes edges visited (id :: stack) =
      visit nodes edges visited id ++
        walk nodes edges (marked visited (visit nodes edges visited id)) stack := by
  rw [visit]
  split
  · rename_i seen
    exact walk_seen seen
  · rename_i fresh
    split
    · rename_i unknown
      exact walk_unknown unknown
    · rename_i node found
      rw [walk_fresh (by simpa using fresh) found, walk_append, List.cons_append]
      simp only [marked, List.foldl_cons, node?_id found]
termination_by (unvisited nodes visited, 0)
decreasing_by exact Prod.Lex.left _ _ (unvisited_cons_lt ‹_› ‹_›)

/-- Ids on the stack are walks still to be made, in the order of the stack. -/
theorem walk_append (visited ids stack : List String) :
    walk nodes edges visited (ids ++ stack) =
      visitEach nodes edges visited ids ++
        walk nodes edges (marked visited (visitEach nodes edges visited ids)) stack := by
  cases ids with
  | nil =>
      rw [visitEach]
      rfl
  | cons id rest =>
      rw [visitEach, List.cons_append, walk_cons, walk_append, marked_append, List.append_assoc]
termination_by (unvisited nodes visited, ids.length + 1)
decreasing_by
  · exact Prod.Lex.right _ (by omega)
  · rcases Nat.lt_or_eq_of_le (unvisited_marked_le visited _) with less | same
    · exact Prod.Lex.left _ _ less
    · rw [same]
      exact Prod.Lex.right _ (by simp)

end

/-- A drawing with a start runs in the order of the recursive walk from its first start. -/
theorem order_eq_visit (edges : List Edge) {start : Node} (found : startNode? nodes = some start) :
    order nodes edges = visit nodes edges [] start.id := by
  rw [order_eq_walk found, walk_cons, walk_nil, List.append_nil]

theorem order_sample : startNode? Sample.nodes = some (Sample.start "s" 84532) ∧
    order Sample.nodes Sample.edges = visit Sample.nodes Sample.edges [] "s" ∧
    (visit Sample.nodes Sample.edges [] "s").map (·.id) = ["s", "b", "c", "e", "t"] := by
  have start : startNode? Sample.nodes = some (Sample.start "s" 84532) := rfl
  have same : order Sample.nodes Sample.edges = visit Sample.nodes Sample.edges [] "s" :=
    order_eq_visit Sample.edges start
  refine ⟨start, same, ?_⟩
  rw [← same]
  decide

end ChainFlow.Graph
