import ChainFlow.Proofs.Graph.Reach
import Mathlib.Data.List.Find
import Mathlib.Data.List.Nodup

/-!
# Drawings with the same walk

A walk looks a drawing up at the ids that it comes to and nowhere else. Two drawings are `AlikeOn` some
ids, from which neither leads away, if they have the same node for each of these ids and the same edges
from each to others of them. Then both are walked in the same order, whatever else is drawn in one of
them or the other (`order_of_alikeOn`).
-/

namespace ChainFlow.Graph

variable {nodes nodes' : List Node} {edges edges' : List Edge}

/-- The ids on a stack that nodes have are among some ids. -/
def Covers (ids : String → Bool) (nodes : List Node) (stack : List String) : Prop :=
  ∀ id ∈ stack, Known nodes id → ids id = true

structure AlikeOn (ids : String → Bool) (nodes : List Node) (edges : List Edge)
    (nodes' : List Node) (edges' : List Edge) : Prop where
  node_eq : ∀ id, ids id = true → node? nodes' id = node? nodes id
  targets_eq : ∀ id, ids id = true →
    (targets edges' id).filter ids = (targets edges id).filter ids
  closed : ∀ id, ids id = true → Covers ids nodes (targets edges id)
  closed' : ∀ id, ids id = true → Covers ids nodes' (targets edges' id)

/-! ## Walks -/

theorem walk_unknowns (visited stack : List String) {skipped : List String}
    (unknown : ∀ id ∈ skipped, node? nodes id = none) :
    walk nodes edges visited (skipped ++ stack) = walk nodes edges visited stack := by
  induction skipped with
  | nil => rfl
  | cons id skipped ih =>
      rw [List.forall_mem_cons] at unknown
      rw [List.cons_append, walk_unknown unknown.1, ih unknown.2]

theorem Covers.node?_eq_none {ids : String → Bool} {stack : List String} (covers : Covers ids nodes stack)
    {id : String} (member : id ∈ stack) (outside : ids id ≠ true) : node? nodes id = none := by
  cases found : node? nodes id with
  | none => rfl
  | some node => exact absurd (covers id member (known_of_node? found)) outside

theorem Covers.append {ids : String → Bool} {first second : List String}
    (covers : Covers ids nodes first) (others : Covers ids nodes second) :
    Covers ids nodes (first ++ second) := List.forall_mem_append.mpr ⟨covers, others⟩

/-- A walk passes over what is not among the ids that cover its stack. -/
theorem walk_of_filter_eq_cons {ids : String → Bool} {stack rest : List String} {id : String}
    (visited : List String) (covers : Covers ids nodes stack)
    (filtered : stack.filter ids = id :: rest) :
    ∃ later, walk nodes edges visited stack = walk nodes edges visited (id :: later) ∧
      Covers ids nodes later ∧ later.filter ids = rest := by
  obtain ⟨skipped, later, rfl, outside, -, same⟩ := List.filter_eq_cons_iff.mp filtered
  refine ⟨later, walk_unknowns visited _ fun id member => ?_, fun id member => ?_, same⟩
  · exact covers.node?_eq_none (List.mem_append_left _ member) (outside id member)
  · exact covers id (List.mem_append_right _ (List.mem_cons_of_mem _ member))

/-- An id that both walks pass over may be taken off both stacks. -/
theorem walk_of_passed {ids : String → Bool} {visited stack stack' : List String} {id : String}
    (passes : ∀ rest, walk nodes edges visited (id :: rest) = walk nodes edges visited rest)
    (passes' : ids id = true → ∀ rest,
      walk nodes' edges' visited (id :: rest) = walk nodes' edges' visited rest)
    (ih : ∀ later, Covers ids nodes stack → Covers ids nodes' later →
      later.filter ids = stack.filter ids →
      walk nodes' edges' visited later = walk nodes edges visited stack)
    (covers : Covers ids nodes (id :: stack)) (covers' : Covers ids nodes' stack')
    (same : stack'.filter ids = (id :: stack).filter ids) :
    walk nodes' edges' visited stack' = walk nodes edges visited (id :: stack) := by
  have rest := (List.forall_mem_cons.mp covers).2
  rw [passes]
  cases inside : ids id with
  | false =>
      rw [List.filter_cons_of_neg (by simp [inside])] at same
      exact ih stack' rest covers' same
  | true =>
      rw [List.filter_cons_of_pos inside] at same
      obtain ⟨later, taken, left, again⟩ := walk_of_filter_eq_cons visited covers' same
      rw [taken, passes' inside]
      exact ih later rest left again

/-- Stacks that hold the same of the ids on which two drawings are alike are walked alike. -/
theorem walk_of_alikeOn {ids : String → Bool} (alike : AlikeOn ids nodes edges nodes' edges')
    (visited stack : List String) : ∀ stack', Covers ids nodes stack → Covers ids nodes' stack' →
      stack'.filter ids = stack.filter ids →
      walk nodes' edges' visited stack' = walk nodes edges visited stack := by
  induction visited, stack using walk_induction nodes edges with
  | nil visited =>
      intro stack' _ covers same
      have outside := List.filter_eq_nil_iff.mp same
      have skipped := @walk_unknowns nodes' edges' visited [] stack' fun id member =>
        covers.node?_eq_none member (outside id member)
      rwa [List.append_nil, walk_nil, ← @walk_nil nodes edges visited] at skipped
  | seen visited id stack isSeen ih =>
      intro stack'
      exact walk_of_passed (fun _ => walk_seen isSeen) (fun _ _ => walk_seen isSeen) ih
  | unknown visited id stack isUnknown ih =>
      intro stack'
      exact walk_of_passed (fun _ => walk_unknown isUnknown)
        (fun inside _ => walk_unknown ((alike.node_eq id inside).trans isUnknown)) ih
  | fresh visited id stack node isFresh found ih =>
      intro stack' covers covers' same
      obtain ⟨here, rest⟩ := List.forall_mem_cons.mp covers
      have inside := here (known_of_node? found)
      rw [List.filter_cons_of_pos inside] at same
      obtain ⟨later, taken, left, again⟩ := walk_of_filter_eq_cons visited covers' same
      rw [taken, walk_fresh isFresh ((alike.node_eq id inside).trans found), walk_fresh isFresh found]
      refine congrArg (node :: ·) (ih _ ((alike.closed id inside).append rest)
        ((alike.closed' id inside).append left) ?_)
      rw [List.filter_append, List.filter_append, alike.targets_eq id inside, again]

theorem order_of_alikeOn {ids : String → Bool} (alike : AlikeOn ids nodes edges nodes' edges')
    {start : Node} (inside : ids start.id = true) (found : startNode? nodes = some start)
    (found' : startNode? nodes' = some start) : order nodes' edges' = order nodes edges := by
  have covers : ∀ nodes, Covers ids nodes [start.id] :=
    fun _ => List.forall_mem_singleton.mpr fun _ => inside
  rw [order_eq_walk found, order_eq_walk found']
  exact walk_of_alikeOn alike [] [start.id] [start.id] (covers _) (covers _) rfl

/-! ## Drawings in another order -/

theorem node?_eq_some_iff (distinct : (nodes.map (·.id)).Nodup) {id : String} {node : Node} :
    node? nodes id = some node ↔ node ∈ nodes ∧ node.id = id := by
  constructor
  · exact fun found => ⟨node?_mem found, node?_id found⟩
  · rintro ⟨member, rfl⟩
    cases found : node? nodes node.id with
    | none => exact absurd ⟨node, member, rfl⟩ (not_known_of_node? found)
    | some other =>
        rw [List.inj_on_of_nodup_map distinct (node?_mem found) member (node?_id found)]

theorem node?_of_perm (distinct : (nodes.map (·.id)).Nodup) (reordered : nodes.Perm nodes')
    (id : String) : node? nodes' id = node? nodes id := by
  refine (List.find?_eq_find?_of_perm reordered ?_).symm
  rintro first ⟨member, isFirst⟩ second ⟨member', isSecond⟩
  have same : first.id = second.id := (eq_of_beq isFirst).trans (eq_of_beq isSecond).symm
  exact List.inj_on_of_nodup_map distinct member member' same

theorem startNode?_of_perm (single : nodes.countP Node.isStart = 1) (reordered : nodes.Perm nodes') :
    startNode? nodes' = startNode? nodes := by
  obtain ⟨only, starts⟩ := List.length_eq_one_iff.mp (List.countP_eq_length_filter.symm.trans single)
  have isOnly : ∀ node ∈ nodes, node.isStart = true → node = only := by
    intro node member isStart
    have among := List.mem_filter.mpr ⟨member, isStart⟩
    rwa [starts, List.mem_singleton] at among
  refine (List.find?_eq_find?_of_perm reordered ?_).symm
  rintro first ⟨member, isFirst⟩ second ⟨member', isSecond⟩
  exact (isOnly first member isFirst).trans (isOnly second member' isSecond).symm

/-- The nodes may be drawn in any order, and the edges in any that leaves those out of each node in
theirs. -/
theorem order_of_perm (distinct : (nodes.map (·.id)).Nodup) (single : nodes.countP Node.isStart = 1)
    (reordered : nodes.Perm nodes') (sameTargets : ∀ source, targets edges' source = targets edges source) :
    order nodes' edges' = order nodes edges := by
  obtain ⟨start, found⟩ : ∃ start, startNode? nodes = some start := by
    cases found : startNode? nodes with
    | some start => exact ⟨start, rfl⟩
    | none =>
        have none := List.countP_eq_zero.mpr (List.find?_eq_none.mp found)
        omega
  have alike : AlikeOn (fun _ => true) nodes edges nodes' edges' := {
    node_eq := fun id _ => node?_of_perm distinct reordered id
    targets_eq := fun id _ => by rw [sameTargets]
    closed := fun _ _ _ _ _ => rfl
    closed' := fun _ _ _ _ _ => rfl }
  exact order_of_alikeOn alike rfl found ((startNode?_of_perm single reordered).trans found)

theorem requireRunnable_of_perm (single : nodes.countP Node.isStart = 1)
    (reordered : nodes.Perm nodes') : requireRunnable nodes' = requireRunnable nodes := by
  have empty : nodes'.isEmpty = nodes.isEmpty := by
    rw [Bool.eq_iff_iff, List.isEmpty_iff, List.isEmpty_iff]
    exact ⟨fun none => (none ▸ reordered).eq_nil, fun none => (none ▸ reordered).symm.eq_nil⟩
  have actions : hasAction nodes' = hasAction nodes := reordered.symm.any_eq
  simp only [requireRunnable, empty, actions, startNode?_of_perm single reordered]

/-! ## Drawings without what is not reached -/

/-- Whether a walk comes to an id. -/
def emits (nodes : List Node) (edges : List Edge) (id : String) : Bool :=
  (order nodes edges).any (·.id == id)

theorem emits_iff_mem {id : String} :
    emits nodes edges id = true ↔ id ∈ (order nodes edges).map (·.id) := by
  simp [emits]

theorem startNode?_filter {start : Node} (found : startNode? nodes = some start) {keep : Node → Bool}
    (keeps : keep start = true) : startNode? (nodes.filter keep) = some start := by
  obtain ⟨isStart, before, after, rfl, earlier⟩ := List.find?_eq_some_iff_append.mp found
  rw [startNode?, List.filter_append, List.filter_cons_of_pos keeps]
  refine List.find?_eq_some_iff_append.mpr ⟨isStart, _, _, rfl, fun node member => ?_⟩
  exact earlier node (List.mem_of_mem_filter member)

section

variable {start : Node} (found : startNode? nodes = some start)

include found

theorem emits_iff {id : String} :
    emits nodes edges id = true ↔ Relation.ReflTransGen (Joined nodes edges) start.id id :=
  emits_iff_mem.trans (mem_order_iff found id)

theorem emits_start (edges : List Edge) : emits nodes edges start.id = true := (emits_iff found).mpr .refl

theorem node?_of_mem_order {node : Node} (member : node ∈ order nodes edges) :
    node? nodes node.id = some node := by
  rw [order_eq_walk found] at member
  exact node?_of_mem_walk [] [start.id] node member

theorem covers_targets {id : String} (inside : emits nodes edges id = true) :
    Covers (emits nodes edges) nodes (targets edges id) := by
  intro target isTarget known
  obtain ⟨node, member, rfl⟩ := List.mem_map.mp (emits_iff_mem.mp inside)
  have joined : Joined nodes edges node.id target :=
    ⟨known_of_node? (node?_of_mem_order found member), known, mem_targets.mp isTarget⟩
  exact (emits_iff found).mpr (((emits_iff found).mp inside).tail joined)

variable (distinct : (nodes.map (·.id)).Nodup)

include distinct

/-- The order of a drawing starts with the start itself, and not with another node of its id. -/
theorem startNode?_order (edges : List Edge) : startNode? (order nodes edges) = some start := by
  obtain ⟨isStart, _⟩ := List.find?_eq_some_iff_append.mp found
  have itself := (node?_eq_some_iff distinct).mpr ⟨List.mem_of_find?_eq_some found, rfl⟩
  rw [order_eq_walk found, walk_fresh rfl itself, startNode?, List.find?_cons_of_pos isStart]

/-- The order of a drawing, drawn with the same edges, is in order. -/
theorem order_order (edges : List Edge) : order (order nodes edges) edges = order nodes edges := by
  have alike : AlikeOn (emits nodes edges) nodes edges (order nodes edges) edges := {
    node_eq := by
      intro id inside
      obtain ⟨node, member, rfl⟩ := List.mem_map.mp (emits_iff_mem.mp inside)
      rw [node?_of_mem_order found member]
      exact (node?_eq_some_iff (order_distinct found)).mpr ⟨member, rfl⟩
    targets_eq := fun _ _ => rfl
    closed := fun _ => covers_targets found
    closed' := by
      rintro id - target - ⟨node, member, rfl⟩
      exact emits_iff_mem.mpr (List.mem_map_of_mem member) }
  exact order_of_alikeOn alike (emits_start found edges) found (startNode?_order found distinct edges)

/-- Nodes to which no path leads from the start, and edges that do not join two nodes to which one
does, can be left out of a drawing, all of them or some. -/
theorem order_filter {keepNode : Node → Bool} {keepEdge : Edge → Bool}
    (keepsNodes : ∀ node ∈ nodes, emits nodes edges node.id = true → keepNode node = true)
    (keepsEdges : ∀ edge ∈ edges, emits nodes edges edge.source = true →
      emits nodes edges edge.target = true → keepEdge edge = true) :
    order (nodes.filter keepNode) (edges.filter keepEdge) = order nodes edges := by
  have less : ∀ {id}, Known (nodes.filter keepNode) id → Known nodes id := by
    rintro id ⟨node, member, same⟩
    exact ⟨node, List.mem_of_mem_filter member, same⟩
  have alike : AlikeOn (emits nodes edges) nodes edges (nodes.filter keepNode)
      (edges.filter keepEdge) := {
    node_eq := by
      intro id inside
      obtain ⟨node, member, rfl⟩ := List.mem_map.mp (emits_iff_mem.mp inside)
      have here := node?_of_mem_order found member
      have kept := List.mem_filter.mpr ⟨node?_mem here, keepsNodes node (node?_mem here) inside⟩
      rw [here]
      exact (node?_eq_some_iff (distinct.sublist (List.filter_sublist.map _))).mpr ⟨kept, rfl⟩
    targets_eq := by
      intro id inside
      simp only [targets, List.filter_map, List.filter_filter]
      refine congrArg _ (List.filter_congr fun edge drawn => ?_)
      by_cases leaves : edge.source = id
      · cases leads : emits nodes edges edge.target with
        | false => simp [leads]
        | true => simp [leads, keepsEdges edge drawn (leaves ▸ inside) leads]
      · simp [beq_eq_false_iff_ne.mpr leaves]
    closed := fun _ => covers_targets found
    closed' := by
      intro id inside target isTarget known
      refine covers_targets found inside target (mem_targets.mpr ?_) (less known)
      obtain ⟨edge, drawn, joins⟩ := mem_targets.mp isTarget
      exact ⟨edge, List.mem_of_mem_filter drawn, joins⟩ }
  refine order_of_alikeOn alike (emits_start found edges) found ?_
  exact startNode?_filter found (keepsNodes start (List.mem_of_find?_eq_some found)
    (emits_start found edges))

end

/-! ## What can be run -/

section

variable {fewer : List Node} {start : Node}

theorem requireRunnable_of_startNode? (found : startNode? nodes = some start) :
    requireRunnable nodes =
      match start.start? with
      | none => .error .noStart
      | some location => if hasAction nodes then .ok (start, location) else .error .noAction := by
  have nonempty : nodes.isEmpty = false := by
    cases nodes with
    | nil => cases found
    | cons node rest => rfl
  cases starts : start.start? <;>
    simp only [requireRunnable, nonempty, found, starts, Bool.false_eq_true, reduceIte]

theorem start?_of_startNode? (found : startNode? nodes = some start) :
    ∃ location, start.start? = some location := by
  have isStart : start.isStart = true := List.find?_some found
  unfold Node.isStart Node.kind at isStart
  unfold Node.start?
  cases role : start.role with
  | start location => exact ⟨location, rfl⟩
  | action work estimate =>
      rw [role] at isStart
      cases work <;> cases isStart
  | finish finish =>
      rw [role] at isStart
      cases isStart

/-- With the same start, more nodes only give more to run. -/
theorem requireRunnable_of_subset (subset : fewer ⊆ nodes) (found : startNode? nodes = some start)
    (found' : startNode? fewer = some start) {result : Node × Start}
    (runnable : requireRunnable fewer = .ok result) :
    requireRunnable nodes = requireRunnable fewer := by
  obtain ⟨location, starts⟩ := start?_of_startNode? found
  simp only [requireRunnable_of_startNode? found', requireRunnable_of_startNode? found, starts]
    at runnable ⊢
  split at runnable
  · next acts =>
    obtain ⟨node, member, isAction⟩ := List.any_eq_true.mp acts
    have more : hasAction nodes = true := List.any_eq_true.mpr ⟨node, subset member, isAction⟩
    rw [acts, more]
  · cases runnable

theorem hasAction_of_requireRunnable (found : startNode? nodes = some start) {cause : Unrunnable}
    (unrunnable : requireRunnable nodes = .error cause) : hasAction nodes = false := by
  obtain ⟨location, starts⟩ := start?_of_startNode? found
  simp only [requireRunnable_of_startNode? found, starts] at unrunnable
  split at unrunnable
  · cases unrunnable
  · next idle => exact Bool.not_eq_true _ ▸ idle

/-- A drawing with a start that cannot be run has nothing to do in its order. -/
theorem passive_of_unrunnable (found : startNode? nodes = some start) {cause : Unrunnable}
    (unrunnable : requireRunnable nodes = .error cause) :
    (order nodes edges).filter Node.isAction = [] := by
  have idle := List.any_eq_false.mp (hasAction_of_requireRunnable found unrunnable)
  exact List.filter_eq_nil_iff.mpr fun node member => idle node (node?_mem (node?_of_mem_order found member))

end

end ChainFlow.Graph
