import ChainFlow.Proofs.Graph.Branching
import ChainFlow.Proofs.Plan.Next

/-!
# Which nodes are fused

A plan that may always fuse takes two nodes in one step wherever they come one after the other and can
be one step: no node can be both the second of one such pair and the first of another. In the plan of a
drawing these pairs are known from its edges: what comes right after a bridge and is joined to it is at
the branch that is open there (`Graph.next_joined_iff`). So `Fuses` says of the steps of a plan which
drawn pairs they fuse.
-/

namespace ChainFlow

namespace Plan

/-- Two nodes that can be one step are next to each other exactly if they are the next step or are so
after it. -/
theorem Issues.pair_iff {edges : List Edge} {rest later : List Node} {step : FlowStep}
    (issues : Issues edges true rest step later) {first second : Node}
    (fusible : canFuse edges first second = true) :
    [first, second] <:+: rest ↔ .fused first second = step ∨ [first, second] <:+: later := by
  obtain ⟨⟨bridge, isBridge⟩, _⟩ := canFuse_iff.mp fusible
  induction issues with
  | passed passive _ ih =>
      rw [List.infix_cons_iff, ← ih]
      refine or_iff_right fun begins => ?_
      rw [← (List.cons_prefix_cons.mp begins).1, isAction_of_bridge? isBridge] at passive
      cases passive
  | @fused node next later _ fused =>
      obtain ⟨_, ⟨call, isCall, _⟩, _⟩ := canFuse_iff.mp fused
      have apart : ¬[first, second] <+: next :: later := by
        intro begins
        rw [(List.cons_prefix_cons.mp begins).1, bridge?_of_call? isCall] at isBridge
        cases isBridge
      rw [List.infix_cons_iff, List.infix_cons_iff, or_iff_right apart]
      refine or_congr_left ?_
      simp [List.cons_prefix_cons]
  | @single node later _ apart =>
      rw [List.infix_cons_iff]
      refine or_congr_left ⟨fun begins => ?_, fun same => nomatch same⟩
      obtain ⟨rfl, rest, rfl⟩ := List.cons_prefix_cons.mp begins
      rw [apart second rfl rfl] at fusible
      cases fusible

theorem fused_mem_drain_iff {plan : Plan} (ready : Ready plan.rest plan.states) {first second : Node} :
    .fused first second ∈ (plan.drain true).1 ↔
      canFuse plan.edges first second = true ∧ [first, second] <:+: plan.rest := by
  refine drain_induction
    (motive := fun plan steps => .fused first second ∈ steps ↔
      canFuse plan.edges first second = true ∧ [first, second] <:+: plan.rest)
    (fun plan passive => ?_) (fun plan step handed done steps ih => ?_) ready
  · refine iff_of_false List.not_mem_nil fun ⟨fusible, adjacent⟩ => ?_
    obtain ⟨⟨bridge, isBridge⟩, _⟩ := canFuse_iff.mp fusible
    have isAction := isAction_of_bridge? isBridge
    have member := List.mem_filter.mpr ⟨adjacent.subset List.mem_cons_self, isAction⟩
    rw [passive] at member
    cases member
  · rw [List.mem_cons, ih, steps.edges_eq]
    constructor
    · rintro (rfl | ⟨fusible, adjacent⟩)
      · have fused := (steps.issues.fused_iff second).mp rfl
        exact ⟨fused.2.1, (steps.issues.pair_iff fused.2.1).mpr (.inl rfl)⟩
      · exact ⟨fusible, (steps.issues.pair_iff fusible).mpr (.inr adjacent)⟩
    · rintro ⟨fusible, adjacent⟩
      exact ((steps.issues.pair_iff fusible).mp adjacent).imp_right fun later => ⟨fusible, later⟩

theorem nodes_drain {plan : Plan} (mayFuse : Bool) (ready : Ready plan.rest plan.states) :
    (plan.drain mayFuse).1.flatMap (·.nodes) = plan.rest.filter Node.isAction := by
  refine drain_induction
    (motive := fun plan steps => steps.flatMap (·.nodes) = plan.rest.filter Node.isAction)
    (fun plan passive => ?_) (fun plan step handed done steps ih => ?_) ready
  · rw [passive, List.flatMap_nil]
  · rw [List.flatMap_cons, ih, steps.issues.actions_eq]

theorem drain_of_passive {plan : Plan} (mayFuse : Bool) (ready : Ready plan.rest plan.states)
    (passive : plan.rest.filter Node.isAction = []) : (plan.drain mayFuse).1 = [] := by
  rcases next_of_ready mayFuse ready with ⟨after, exhausted, _⟩ | ⟨step, handed, done, steps⟩
  · exact drain_of_exhausted exhausted
  · rw [steps.issues.actions_eq] at passive
    cases step <;> cases passive

end Plan

/-- Which drawn pairs some steps fuse: each bridge of the order with the contract call at its first open
branch, if that is no swap, and nothing else. -/
structure Fuses (nodes : List Node) (edges : List Edge) (steps : List FlowStep) : Prop where
  fused_iff : ∀ before node after, Graph.order nodes edges = before ++ node :: after → ∀ partner,
    .fused node partner ∈ steps ↔ (∃ bridge, node.bridge? = some bridge) ∧
      (∃ call, partner.call? = some call ∧ call.action ≠ .swap) ∧
      ∃ edge, Graph.branch? nodes edges before node = some edge ∧
        Graph.node? nodes edge.target = some partner
  sole : ∀ node partner other, .fused node partner ∈ steps → .fused node other ∈ steps → other = partner
  nodes_eq : steps.flatMap (·.nodes) = (Graph.order nodes edges).filter Node.isAction
  distinct : ((steps.flatMap (·.nodes)).map (·.id)).Nodup

theorem infix_pair_iff {before after : List Node} {node next : Node}
    (distinct : (before ++ node :: after).Nodup) :
    [node, next] <:+: before ++ node :: after ↔ after.head? = some next := by
  constructor
  · rintro ⟨front, back, split⟩
    rw [List.append_assoc, List.cons_append, List.singleton_append] at split
    have apart := distinct
    rw [← split, List.nodup_middle, List.nodup_cons, List.mem_append, not_or] at apart
    obtain ⟨-, -, rfl⟩ := (List.append_cons_inj_of_notMem apart.1.1 apart.1.2).mp split
    rfl
  · intro head
    obtain ⟨back, rfl⟩ := List.head?_eq_some_iff.mp head
    exact ⟨before, back, by simp⟩

theorem fuses_order {nodes : List Node} {start : Node} (found : Graph.startNode? nodes = some start)
    (edges : List Edge) :
    Fuses nodes edges ((Plan.ofOrder (Graph.order nodes edges) edges).drain true).1 := by
  have distinct := @Graph.order_distinct nodes edges start found
  have ready := @Plan.ready_ofOrder _ edges distinct
  have nodes_eq := Plan.nodes_drain true ready
  refine ⟨fun before node after split partner => ?_, fun node partner other fused fused' => ?_, nodes_eq,
    ?_⟩
  · have once : (before ++ node :: after).Nodup := split ▸ distinct.of_map
    rw [← Graph.next_joined_iff found split, ← infix_pair_iff once, ← split,
      Plan.fused_mem_drain_iff ready, canFuse_iff, and_assoc, and_assoc]
    rfl
  · have adjacent := ((Plan.fused_mem_drain_iff ready).mp fused).2
    have adjacent' := ((Plan.fused_mem_drain_iff ready).mp fused').2
    obtain ⟨before, behind, split⟩ : ∃ before behind, Graph.order nodes edges = before ++ node :: behind :=
      List.append_of_mem (adjacent.subset List.mem_cons_self)
    have once : (before ++ node :: behind).Nodup := split ▸ distinct.of_map
    simp only [Plan.ofOrder, split, infix_pair_iff once] at adjacent adjacent'
    exact Option.some.inj (adjacent'.symm.trans adjacent)
  · rw [nodes_eq]
    exact distinct.sublist (List.filter_sublist.map _)

end ChainFlow
