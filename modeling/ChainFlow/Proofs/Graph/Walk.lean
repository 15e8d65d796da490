import ChainFlow.Graph.Check
import ChainFlow.Graph.Walk

/-!
# The steps of a walk

`Graph.walkFrom` counts its steps. `pending` bounds the steps that a walk still takes, and `walk` is
the walk with exactly so many. What follows uses `walk` and its four equations, one for each way in
which the stack can be taken up.
-/

namespace ChainFlow.Graph

variable {nodes : List Node} {edges : List Edge}

/-- A bound on the steps that a walk still takes. Every id on the stack is taken off once; every edge
out of an id that is not yet visited puts one more on it. -/
def pending (edges : List Edge) (visited stack : List String) : Nat :=
  stack.length + edges.countP fun edge => !visited.contains edge.source

theorem node?_id {id : String} {node : Node} (found : node? nodes id = some node) :
    node.id = id := by
  simpa using List.find?_some found

theorem node?_mem {id : String} {node : Node} (found : node? nodes id = some node) :
    node ∈ nodes := List.mem_of_find?_eq_some found

theorem length_targets (id : String) :
    (targets edges id).length = edges.countP (·.source == id) := by
  simp [targets, List.countP_eq_length_filter]

theorem countP_visit (edges : List Edge) {visited : List String} {id : String} (fresh : visited.contains id = false) :
    edges.countP (fun edge => !(id :: visited).contains edge.source) +
      edges.countP (·.source == id) =
    edges.countP fun edge => !visited.contains edge.source := by
  induction edges with
  | nil => rfl
  | cons edge edges ih =>
      simp only [List.countP_cons, List.contains_cons] at ih ⊢
      by_cases same : edge.source = id
      · subst same
        simp only [fresh, beq_self_eq_true, Bool.true_or, Bool.not_true, Bool.not_false] at ih ⊢
        simp only [reduceIte, Bool.false_eq_true] at ih ⊢
        omega
      · simp only [beq_eq_false_iff_ne.mpr same, Bool.false_or, Bool.false_eq_true] at ih ⊢
        simp only [reduceIte] at ih ⊢
        omega

/-- A visit takes one id off the stack and uses up the edges that it puts on it. -/
theorem pending_visit (edges : List Edge) {visited : List String} (stack : List String) {id : String}
    (fresh : visited.contains id = false) :
    pending edges (id :: visited) (targets edges id ++ stack) + 1 =
      pending edges visited (id :: stack) := by
  have used := countP_visit edges fresh
  simp only [pending, List.length_append, length_targets, List.length_cons]
  omega

theorem pending_skip (edges : List Edge) (visited stack : List String) (id : String) :
    pending edges visited stack + 1 = pending edges visited (id :: stack) := by
  simp only [pending, List.length_cons]
  omega

theorem walkFrom_of_pending_le {visited stack : List String} {fuel more : Nat}
    (enough : pending edges visited stack ≤ fuel) (le : fuel ≤ more) :
    walkFrom nodes edges more visited stack = walkFrom nodes edges fuel visited stack := by
  induction fuel generalizing more visited stack with
  | zero =>
      have empty : stack = [] := by
        simp only [pending] at enough
        exact List.eq_nil_of_length_eq_zero (by omega)
      subst empty
      cases more <;> rfl
  | succ fuel ih =>
      obtain ⟨more, rfl⟩ : ∃ less, more = less + 1 := ⟨more - 1, by omega⟩
      cases stack with
      | nil => rfl
      | cons id stack =>
          have skip := pending_skip edges visited stack id
          cases seen : visited.contains id with
          | true =>
              simp only [walkFrom, seen, reduceIte]
              exact ih (by omega) (by omega)
          | false =>
              have visit := pending_visit edges stack seen
              simp only [walkFrom, seen, Bool.false_eq_true, reduceIte]
              cases node? nodes id with
              | none => exact ih (by omega) (by omega)
              | some node => exact congrArg (node :: ·) (ih (by omega) (by omega))

/-- The walk that remains, with as many steps as it takes. -/
def walk (nodes : List Node) (edges : List Edge) (visited stack : List String) : List Node :=
  walkFrom nodes edges (pending edges visited stack) visited stack

theorem walkFrom_eq_walk {visited stack : List String} {fuel : Nat}
    (enough : pending edges visited stack ≤ fuel) :
    walkFrom nodes edges fuel visited stack = walk nodes edges visited stack :=
  walkFrom_of_pending_le (Nat.le_refl _) enough

theorem walk_nil (visited : List String) : walk nodes edges visited [] = [] := by
  unfold walk
  cases pending edges visited [] <;> rfl

theorem walk_seen {visited stack : List String} {id : String} (seen : visited.contains id = true) :
    walk nodes edges visited (id :: stack) = walk nodes edges visited stack := by
  rw [walk, ← pending_skip]
  simp only [walkFrom, seen, reduceIte]
  rfl

theorem walk_unknown {visited stack : List String} {id : String}
    (unknown : node? nodes id = none) :
    walk nodes edges visited (id :: stack) = walk nodes edges visited stack := by
  rw [walk, ← pending_skip]
  simp only [walkFrom, unknown, ite_self]
  rfl

theorem walk_fresh {visited stack : List String} {id : String} {node : Node}
    (fresh : visited.contains id = false) (found : node? nodes id = some node) :
    walk nodes edges visited (id :: stack) =
      node :: walk nodes edges (id :: visited) (targets edges id ++ stack) := by
  rw [walk, ← pending_visit edges stack fresh]
  simp only [walkFrom, fresh, found, Bool.false_eq_true, reduceIte]
  rfl

/-- The order of a drawing with a start is the walk from it. -/
theorem order_eq_walk {start : Node} (found : startNode? nodes = some start) :
    order nodes edges = walk nodes edges [] [start.id] := by
  simp only [order, found]
  apply walkFrom_eq_walk
  simp only [pending, List.length_singleton]
  have bound := @List.countP_le_length _ (fun edge => !([] : List String).contains edge.source) edges
  omega

/-- A walk emits no id twice, and none that is visited before it. -/
theorem walkFrom_distinct (fuel : Nat) (visited stack : List String) :
    ((walkFrom nodes edges fuel visited stack).map (·.id)).Nodup ∧
      ∀ node ∈ walkFrom nodes edges fuel visited stack, node.id ∉ visited := by
  induction fuel generalizing visited stack with
  | zero => simp [walkFrom]
  | succ fuel ih =>
      cases stack with
      | nil => simp [walkFrom]
      | cons id stack =>
          unfold walkFrom
          split
          · exact ih visited stack
          · rename_i fresh
            split
            · exact ih visited stack
            · rename_i node found
              obtain ⟨distinct, apart⟩ := ih (id :: visited) (targets edges id ++ stack)
              constructor
              · rw [List.map_cons, List.nodup_cons]
                refine ⟨?_, distinct⟩
                intro again
                obtain ⟨other, member, same⟩ := List.mem_map.mp again
                apply apart other member
                rw [same, node?_id found]
                exact List.mem_cons_self
              · intro other member
                rcases List.mem_cons.mp member with rfl | later
                · simpa [node?_id found] using fresh
                · exact fun seen => apart other later (List.mem_cons_of_mem _ seen)

theorem startNode?_of_runnable {start : Node} {location : Start}
    (runnable : requireRunnable nodes = .ok (start, location)) : startNode? nodes = some start := by
  unfold requireRunnable at runnable
  split at runnable
  · cases runnable
  · split at runnable
    · cases runnable
    · split at runnable
      · cases runnable
      · split at runnable
        · cases runnable
          assumption
        · cases runnable

theorem order_distinct {start : Node} (found : startNode? nodes = some start) :
    ((order nodes edges).map (·.id)).Nodup := by
  simp only [order, found]
  exact (walkFrom_distinct _ _ _).1

end ChainFlow.Graph
