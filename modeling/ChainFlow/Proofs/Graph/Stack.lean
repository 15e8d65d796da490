import ChainFlow.Proofs.Graph.Walk

/-!
# The stack of a walk

A walk takes ids off its stack one after the other until there is none left. `Walker.pop?` takes one,
and `Popped` says what comes of it; nothing here counts down. Each time `pending` becomes less by
one, whatever the drawing is like (`pending_popped`), since the edges out of an id go on the stack
only when it is visited, and it is visited once. So every walk ends, and it has then taken one id for
its start and one for each edge out of a node that it emitted (`pops_eq`).
-/

namespace ChainFlow.Graph

variable {nodes : List Node} {edges : List Edge}

/-- A walk under way. -/
structure Walker where
  visited : List String
  /-- The ids to visit, the next one first. -/
  stack : List String
  emitted : List Node

namespace Walker

/-- The walk before its first step; there is nothing to visit in a drawing without a start. -/
def start (nodes : List Node) : Walker := ⟨[], ((startNode? nodes).map (·.id)).toList, []⟩

/-- The walk after one id is taken off the stack, if there is one on it. -/
def pop? (nodes : List Node) (edges : List Edge) (walker : Walker) : Option Walker :=
  match walker.stack with
  | [] => none
  | id :: stack =>
    if walker.visited.contains id then some { walker with stack }
    else
      match node? nodes id with
      | none => some { walker with stack }
      | some node =>
        some ⟨id :: walker.visited, targets edges id ++ stack, walker.emitted ++ [node]⟩

/-- What one step makes of a walk: the id that it takes is left out, or its node is visited. -/
inductive Popped (nodes : List Node) (edges : List Edge) : Walker → Walker → Prop
  | skipped {visited stack : List String} {emitted : List Node} {id : String}
      (idle : visited.contains id = true ∨ node? nodes id = none) :
      Popped nodes edges ⟨visited, id :: stack, emitted⟩ ⟨visited, stack, emitted⟩
  | visited {visited stack : List String} {emitted : List Node} {id : String} {node : Node}
      (fresh : visited.contains id = false) (found : node? nodes id = some node) :
      Popped nodes edges ⟨visited, id :: stack, emitted⟩
        ⟨id :: visited, targets edges id ++ stack, emitted ++ [node]⟩

/-- The walk after a number of steps. -/
inductive Pops (nodes : List Node) (edges : List Edge) : Nat → Walker → Walker → Prop
  | done (walker : Walker) : Pops nodes edges 0 walker walker
  | pop {count : Nat} {walker next last : Walker} (popped : walker.pop? nodes edges = some next)
      (rest : Pops nodes edges count next last) : Pops nodes edges (count + 1) walker last

/-- A bound on the steps to come. -/
def pending (edges : List Edge) (walker : Walker) : Nat :=
  Graph.pending edges walker.visited walker.stack

/-! ## One step -/

variable {walker next last : Walker}

theorem popped_of_pop? (popped : walker.pop? nodes edges = some next) :
    Popped nodes edges walker next := by
  obtain ⟨visited, stack, emitted⟩ := walker
  cases stack with
  | nil => cases popped
  | cons id stack =>
      simp only [pop?] at popped
      cases seen : visited.contains id with
      | true =>
          rw [if_pos seen] at popped
          cases popped
          exact .skipped (.inl seen)
      | false =>
          rw [if_neg (ne_true_of_eq_false seen)] at popped
          cases found : node? nodes id with
          | none =>
              rw [found] at popped
              cases popped
              exact .skipped (.inr found)
          | some node =>
              rw [found] at popped
              cases popped
              exact .visited seen found

theorem exists_pop? (edges : List Edge) (more : walker.stack ≠ []) :
    ∃ next, walker.pop? nodes edges = some next := by
  obtain ⟨visited, stack, emitted⟩ := walker
  cases stack with
  | nil => exact absurd rfl more
  | cons id stack =>
      simp only [pop?]
      split
      · exact ⟨_, rfl⟩
      · split <;> exact ⟨_, rfl⟩

theorem pending_popped (popped : Popped nodes edges walker next) :
    next.pending edges + 1 = walker.pending edges := by
  cases popped with
  | skipped idle => exact pending_skip edges _ _ _
  | visited fresh found => exact pending_visit edges _ fresh

theorem walk_popped (popped : Popped nodes edges walker next) :
    next.emitted ++ walk nodes edges next.visited next.stack =
      walker.emitted ++ walk nodes edges walker.visited walker.stack := by
  cases popped with
  | skipped idle =>
      rcases idle with seen | unknown
      · rw [walk_seen seen]
      · rw [walk_unknown unknown]
  | visited fresh found => rw [walk_fresh fresh found, List.append_assoc, List.singleton_append]

/-- The ids that a walk has visited are those of the nodes that it has emitted, the last one first. -/
def IsMarked (walker : Walker) : Prop := walker.visited = (walker.emitted.map (·.id)).reverse

theorem IsMarked.popped (isMarked : walker.IsMarked) (popped : Popped nodes edges walker next) :
    next.IsMarked := by
  cases popped with
  | skipped idle => exact isMarked
  | visited fresh found =>
      unfold IsMarked at isMarked ⊢
      simp only at isMarked ⊢
      rw [isMarked, List.map_append, List.reverse_append, ← node?_id found]
      rfl

/-! ## All steps -/

variable {count : Nat}

theorem pending_pops (pops : Pops nodes edges count walker last) :
    count + last.pending edges = walker.pending edges := by
  induction pops with
  | done walker => exact Nat.zero_add _
  | pop popped rest ih =>
      have less := pending_popped (popped_of_pop? popped)
      omega

theorem walk_pops (pops : Pops nodes edges count walker last) :
    last.emitted ++ walk nodes edges last.visited last.stack =
      walker.emitted ++ walk nodes edges walker.visited walker.stack := by
  induction pops with
  | done walker => rfl
  | pop popped rest ih => rw [ih, walk_popped (popped_of_pop? popped)]

theorem IsMarked.pops (isMarked : walker.IsMarked) (pops : Pops nodes edges count walker last) :
    last.IsMarked := by
  induction pops with
  | done walker => exact isMarked
  | pop popped rest ih => exact ih (isMarked.popped (popped_of_pop? popped))

/-- Every walk comes to its end. -/
theorem exists_pops (nodes : List Node) (edges : List Edge) (walker : Walker) :
    ∃ count last, Pops nodes edges count walker last ∧ last.stack = [] := by
  induction size : walker.pending edges generalizing walker with
  | zero =>
      have empty : walker.stack.length = 0 := by
        unfold pending Graph.pending at size
        omega
      exact ⟨0, walker, .done walker, List.eq_nil_of_length_eq_zero empty⟩
  | succ rest ih =>
      by_cases ended : walker.stack = []
      · exact ⟨0, walker, .done walker, ended⟩
      · obtain ⟨next, popped⟩ := exists_pop? edges ended
        have less := pending_popped (popped_of_pop? popped)
        obtain ⟨count, last, pops, ended⟩ := ih next (by omega)
        exact ⟨count + 1, last, .pop popped pops, ended⟩

/-- No step is left at the end. -/
theorem Pops.le_of_ended {more : Nat} {between : Walker}
    (first : Pops nodes edges more walker between) (pops : Pops nodes edges count walker last)
    (ended : last.stack = []) : more ≤ count := by
  induction first generalizing count with
  | done walker => exact Nat.zero_le count
  | pop popped rest ih =>
      cases pops with
      | done walker =>
          simp only [pop?, ended] at popped
          cases popped
      | pop popped' rest' =>
          rw [popped] at popped'
          cases popped'
          exact Nat.succ_le_succ (ih rest')

theorem pending_start_le (nodes : List Node) (edges : List Edge) :
    (start nodes).pending edges ≤ 1 + edges.length := by
  have all := List.countP_le_length (p := fun edge : Edge => !([] : List String).contains edge.source)
    (l := edges)
  have few : ((startNode? nodes).map (·.id)).toList.length ≤ 1 := Option.length_toList_le
  exact Nat.add_le_add few all

/-- A walk takes one id off its stack for its start and one for each edge out of what it emits. -/
theorem pops_eq {entry : Node} (found : startNode? nodes = some entry)
    (pops : Pops nodes edges count (start nodes) last) (ended : last.stack = []) :
    count = 1 + edges.countP fun edge => (last.emitted.map (·.id)).contains edge.source := by
  have unmarked : (start nodes).IsMarked := rfl
  have isMarked : last.IsMarked := unmarked.pops pops
  have taken := pending_pops pops
  have apart := edges.length_eq_countP_add_countP fun edge => last.visited.contains edge.source
  have all : (start nodes).pending edges = 1 + edges.length := by
    simp [start, found, pending, Graph.pending]
  have rest : last.pending edges = edges.countP fun edge => !last.visited.contains edge.source := by
    simp [pending, Graph.pending, ended]
  have same : edges.countP (fun edge => last.visited.contains edge.source) =
      edges.countP fun edge => (last.emitted.map (·.id)).contains edge.source := by
    rw [isMarked]
    simp only [List.contains_reverse]
  simp only [Bool.not_eq_true, Bool.decide_eq_false] at apart
  omega

end Walker

open Walker in
/-- The stack of a walk is empty after at most one step more than there are edges, and no step can
follow. What has been emitted by then is the order of the drawing, and the steps are one for the start
and one for each edge out of a node of that order. -/
theorem pops_le (nodes : List Node) (edges : List Edge) :
    ∃ count last, Pops nodes edges count (start nodes) last ∧ last.stack = [] ∧
      count ≤ 1 + edges.length ∧
      (∀ more walker, Pops nodes edges more (start nodes) walker → more ≤ count) ∧
      ∀ entry, startNode? nodes = some entry →
        last.emitted = order nodes edges ∧
        count = 1 + edges.countP fun edge =>
          ((order nodes edges).map (·.id)).contains edge.source := by
  obtain ⟨count, last, pops, ended⟩ := exists_pops nodes edges (start nodes)
  have bounded : count ≤ 1 + edges.length := by
    have taken := pending_pops pops
    have most := pending_start_le nodes edges
    omega
  refine ⟨count, last, pops, ended, bounded, fun _ _ first => first.le_of_ended pops ended, ?_⟩
  intro entry found
  have emitted : last.emitted = order nodes edges := by
    have walked := walk_pops pops
    rw [ended, walk_nil, List.append_nil] at walked
    rw [order_eq_walk found, walked]
    simp [start, found]
  exact ⟨emitted, emitted ▸ pops_eq found pops ended⟩

end ChainFlow.Graph
