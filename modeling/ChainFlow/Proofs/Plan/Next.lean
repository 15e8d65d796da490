import ChainFlow.Plan

/-!
# Handing out a step

`Issues` says what the next step of some nodes is, by the way in which `Plan.nextFrom` comes to it.
A plan is `Ready` if the nodes not yet passed have distinct ids and are all pending. A ready plan
hands out its next step without a fault, what it hands out can be completed, and it is ready again
after that.
-/

namespace ChainFlow

/-! ## Nodes that are one step -/

theorem isAction_of_bridge? {node : Node} {bridge : Bridge} (found : node.bridge? = some bridge) :
    node.isAction = true := by
  unfold Node.bridge? at found
  split at found
  · rename_i role
    simp only [Node.isAction, Node.kind, role, Role.kind, Kind.isAction]
  · cases found

theorem isAction_of_call? {node : Node} {call : ContractCall} (found : node.call? = some call) :
    node.isAction = true := by
  unfold Node.call? at found
  split at found
  · rename_i role
    simp only [Node.isAction, Node.kind, role, Role.kind, Kind.isAction]
  · cases found

theorem bridge?_of_call? {node : Node} {call : ContractCall} (isCall : node.call? = some call) :
    node.bridge? = none := by
  unfold Node.call? at isCall
  unfold Node.bridge?
  split at isCall
  · rename_i role
    rw [role]
  · cases isCall

theorem canFuse_iff {edges : List Edge} {node next : Node} :
    canFuse edges node next = true ↔
      (∃ bridge, node.bridge? = some bridge) ∧
      (∃ call, next.call? = some call ∧ call.action ≠ .swap) ∧
      ∃ edge ∈ edges, edge.source = node.id ∧ edge.target = next.id := by
  unfold canFuse
  cases node.bridge? with
  | none => simp
  | some bridge =>
      cases next.call? with
      | none => simp
      | some call => simp [Graph.hasEdge, Edge.joins]

/-! ## States -/

namespace States

theorem lookup_replace (states : States) (id other : String) (state : StepState) :
    (states.replace id state).lookup other =
      if other = id then (states.lookup id).map fun _ => state else states.lookup other := by
  induction states with
  | nil => simp [replace]
  | cons entry states ih =>
      obtain ⟨key, current⟩ := entry
      simp only [replace, List.map_cons] at ih ⊢
      by_cases here : key = id
      · subst here
        by_cases asked : other = key
        · simp [asked]
        · simpa [List.lookup_cons, asked, beq_eq_false_iff_ne.mpr asked] using ih
      · by_cases asked : other = id
        · subst asked
          simpa [List.lookup_cons, here, beq_eq_false_iff_ne.mpr (Ne.symm here)] using ih
        · simp only [if_neg asked, beq_eq_false_iff_ne.mpr here, Bool.false_eq_true, reduceIte,
            List.lookup_cons] at ih ⊢
          rw [ih]

theorem lookup_replace_of_ne {states : States} {id other : String} {state : StepState}
    (ne : other ≠ id) : (states.replace id state).lookup other = states.lookup other := by
  rw [lookup_replace, if_neg ne]

theorem lookup_ofOrder {order : List Node} {node : Node} (member : node ∈ order) :
    (ofOrder order).lookup node.id = some .pending := by
  have named : node.id ∈ (order.map (·.id)).eraseDups :=
    List.mem_eraseDups.mpr (List.mem_map_of_mem member)
  unfold ofOrder
  generalize (order.map (·.id)).eraseDups = ids at named ⊢
  induction ids with
  | nil => cases named
  | cons id ids ih =>
      simp only [List.map_cons, List.lookup_cons]
      by_cases here : node.id = id
      · simp [here]
      · have later := (List.mem_cons.mp named).resolve_left here
        simpa [beq_eq_false_iff_ne.mpr here] using ih later

end States

namespace Plan

theorem transition_ok {states : States} {id : String} {current : StepState} (next : StepState)
    (found : states.lookup id = some current) (allowed : current.canBecome next = true) :
    transition states id next = .ok (states.replace id next) := by
  simp only [transition, found, allowed, reduceIte]

theorem lookup_transition {states after : States} {id other : String} {next : StepState}
    (moved : transition states id next = .ok after) (ne : other ≠ id) :
    after.lookup other = states.lookup other := by
  unfold transition at moved
  split at moved
  · cases moved
  · split at moved
    · cases moved
      exact States.lookup_replace_of_ne ne
    · cases moved

theorem lookup_completeAll {ids : List String} {states : States} {other : String}
    (apart : other ∉ ids) : (completeAll ids states).2.lookup other = states.lookup other := by
  induction ids generalizing states with
  | nil => rfl
  | cons id ids ih =>
      rw [List.mem_cons, not_or] at apart
      unfold completeAll
      cases moved : transition states id .done with
      | error fault => rfl
      | ok after => exact (ih apart.2).trans (lookup_transition moved apart.1)

/-! ## The next step -/

/-- The next step of some nodes and the nodes after it, when it is asked for with a leave to fuse. -/
inductive Issues (edges : List Edge) (mayFuse : Bool) : List Node → FlowStep → List Node → Prop
  | passed {node : Node} {rest later : List Node} {step : FlowStep} :
      node.isAction = false → Issues edges mayFuse rest step later →
      Issues edges mayFuse (node :: rest) step later
  | fused {node next : Node} {later : List Node} :
      mayFuse = true → canFuse edges node next = true →
      Issues edges mayFuse (node :: next :: later) (.fused node next) later
  | single {node : Node} {later : List Node} :
      node.isAction = true →
      (∀ next ∈ later.head?, mayFuse = true → canFuse edges node next = false) →
      Issues edges mayFuse (node :: later) (.single node) later

namespace Issues

variable {edges : List Edge} {mayFuse : Bool} {rest later : List Node} {step : FlowStep}

theorem split_passive (issues : Issues edges mayFuse rest step later) :
    ∃ passed, (∀ node ∈ passed, node.isAction = false) ∧ rest = passed ++ step.nodes ++ later := by
  induction issues with
  | passed passive _ ih =>
      obtain ⟨passed, allPassive, rfl⟩ := ih
      exact ⟨_ :: passed, List.forall_mem_cons.mpr ⟨passive, allPassive⟩, rfl⟩
  | fused _ _ => exact ⟨[], by simp, rfl⟩
  | single _ _ => exact ⟨[], by simp, rfl⟩

theorem split (issues : Issues edges mayFuse rest step later) :
    ∃ passed, rest = passed ++ step.nodes ++ later :=
  issues.split_passive.imp fun _ passed => passed.2

theorem length_lt (issues : Issues edges mayFuse rest step later) :
    later.length < rest.length := by
  induction issues with
  | passed _ _ ih =>
      rw [List.length_cons]
      omega
  | fused _ _ =>
      simp only [List.length_cons]
      omega
  | single _ _ => exact Nat.lt_succ_self _

theorem actions_eq (issues : Issues edges mayFuse rest step later) :
    rest.filter Node.isAction = step.nodes ++ later.filter Node.isAction := by
  induction issues with
  | passed passive _ ih => rw [List.filter_cons_of_neg (by simp [passive]), ih]
  | fused _ fusible =>
      obtain ⟨⟨bridge, isBridge⟩, ⟨call, isCall, _⟩, _⟩ := canFuse_iff.mp fusible
      rw [List.filter_cons_of_pos (isAction_of_bridge? isBridge),
        List.filter_cons_of_pos (isAction_of_call? isCall)]
      rfl
  | single action _ =>
      rw [List.filter_cons_of_pos action]
      rfl

theorem fused_iff (issues : Issues edges mayFuse rest step later) (partner : Node) :
    step = .fused step.first partner ↔
      mayFuse = true ∧ canFuse edges step.first partner = true ∧
        (step.nodes.tail ++ later).head? = some partner := by
  induction issues with
  | passed _ _ ih => exact ih
  | fused may fusible =>
      constructor
      · rintro ⟨⟩
        exact ⟨may, fusible, rfl⟩
      · rintro ⟨_, _, next⟩
        cases next
        rfl
  | single _ apart =>
      constructor
      · rintro ⟨⟩
      · rintro ⟨may, fusible, next⟩
        have single := apart partner next may
        simp only [FlowStep.first, single, Bool.false_eq_true] at fusible

/-- Without the leave to fuse, a step of one node is the same. -/
theorem single_apart {node : Node} (issues : Issues edges mayFuse rest (.single node) later) :
    Issues edges false rest (.single node) later := by
  generalize single : FlowStep.single node = step at issues ⊢
  induction issues with
  | passed passive _ ih => exact .passed passive (ih single)
  | fused _ _ => cases single
  | single action _ => exact .single action fun _ _ may => nomatch may

/-- Without the leave to fuse, a step of two nodes is two steps. -/
theorem fused_apart {first second : Node} (issues : Issues edges mayFuse rest (.fused first second) later) :
    Issues edges false rest (.single first) (second :: later) ∧
      Issues edges false (second :: later) (.single second) later := by
  generalize fused : FlowStep.fused first second = step at issues
  induction issues with
  | passed passive _ ih => exact (ih fused).imp_left (.passed passive)
  | fused _ fusible =>
      cases fused
      obtain ⟨⟨bridge, isBridge⟩, ⟨call, isCall, _⟩, _⟩ := canFuse_iff.mp fusible
      exact ⟨.single (isAction_of_bridge? isBridge) (fun _ _ may => nomatch may),
        .single (isAction_of_call? isCall) (fun _ _ may => nomatch may)⟩
  | single _ _ => cases fused

/-- What is next is determined. -/
theorem unique (issues : Issues edges mayFuse rest step later) {other : FlowStep} {left : List Node}
    (others : Issues edges mayFuse rest other left) : other = step ∧ left = later := by
  induction issues with
  | passed passive _ ih =>
      cases others with
      | passed _ others => exact ih others
      | fused _ fusible =>
          obtain ⟨⟨bridge, isBridge⟩, _⟩ := canFuse_iff.mp fusible
          rw [isAction_of_bridge? isBridge] at passive
          cases passive
      | single action _ =>
          rw [action] at passive
          cases passive
  | fused may fusible =>
      cases others with
      | passed passive _ =>
          obtain ⟨⟨bridge, isBridge⟩, _⟩ := canFuse_iff.mp fusible
          rw [isAction_of_bridge? isBridge] at passive
          cases passive
      | fused _ _ => exact ⟨rfl, rfl⟩
      | single _ apart =>
          rw [apart _ rfl may] at fusible
          cases fusible
  | single action apart =>
      cases others with
      | passed passive _ =>
          rw [action] at passive
          cases passive
      | fused may fusible =>
          rw [apart _ rfl may] at fusible
          cases fusible
      | single _ _ => exact ⟨rfl, rfl⟩

end Issues

structure Ready (rest : List Node) (states : States) : Prop where
  distinct : (rest.map (·.id)).Nodup
  pending : ∀ node ∈ rest, states.lookup node.id = some .pending

theorem ready_ofOrder {order : List Node} {edges : List Edge}
    (distinct : (order.map (·.id)).Nodup) :
    Ready (ofOrder order edges).rest (ofOrder order edges).states :=
  ⟨distinct, fun _ member => States.lookup_ofOrder member⟩

theorem Ready.append_right (passed : List Node) {rest : List Node} {states : States}
    (ready : Ready (passed ++ rest) states) : Ready rest states := by
  constructor
  · have distinct := ready.distinct
    rw [List.map_append] at distinct
    exact (List.nodup_append.mp distinct).2.1
  · intro node member
    exact ready.pending node (List.mem_append_right _ member)

theorem Ready.congr {rest : List Node} {states after : States} (ready : Ready rest states)
    (same : ∀ node ∈ rest, after.lookup node.id = states.lookup node.id) : Ready rest after :=
  ⟨ready.distinct, fun node member => (same node member).trans (ready.pending node member)⟩

def Open (states : States) : FlowStep → Prop
  | .single node => states.lookup node.id = some .pending
  | .fused bridge call =>
      states.lookup bridge.id = some .fused ∧ states.lookup call.id = some .pending ∧
        bridge.id ≠ call.id

theorem completeAll_of_open {states : States} {step : FlowStep} (isOpen : Open states step) :
    (completeAll step.ids states).1 = .ok () := by
  cases step with
  | single node =>
      have moved := transition_ok .done isOpen rfl
      simp only [FlowStep.ids, FlowStep.nodes, List.map_cons, List.map_nil, completeAll, moved]
  | fused bridge call =>
      obtain ⟨fused, pending, ne⟩ := isOpen
      have first := transition_ok .done fused rfl
      have kept : (states.replace bridge.id .done).lookup call.id = some .pending :=
        (States.lookup_replace_of_ne ne.symm).trans pending
      have second := transition_ok .done kept rfl
      simp only [FlowStep.ids, FlowStep.nodes, List.map_cons, List.map_nil, completeAll, first, second]

structure Issued (edges : List Edge) (mayFuse : Bool) (rest : List Node) (states : States)
    (step : FlowStep) (later : List Node) (after : States) : Prop where
  handed : nextFrom edges mayFuse rest states = (.ok (some step), later, after)
  issues : Issues edges mayFuse rest step later
  isOpen : Open after step
  ready : Ready later after

theorem nextFrom_of_ready (edges : List Edge) (mayFuse : Bool) {rest : List Node} {states : States}
    (ready : Ready rest states) :
    (∃ after, nextFrom edges mayFuse rest states = (.ok none, [], after) ∧
      rest.filter Node.isAction = []) ∨
    ∃ step later after, Issued edges mayFuse rest states step later after := by
  induction rest generalizing states with
  | nil => exact .inl ⟨states, rfl, rfl⟩
  | cons node rest ih =>
      have pending := ready.pending node List.mem_cons_self
      have later : Ready rest states := Ready.append_right [node] ready
      have apart : ∀ next ∈ rest, next.id ≠ node.id := by
        intro next member same
        have distinct := ready.distinct
        rw [List.map_cons, List.nodup_cons] at distinct
        exact distinct.1 (List.mem_map.mpr ⟨next, member, same⟩)
      cases action : node.isAction with
      | false =>
          have moved := transition_ok .done pending rfl
          have kept : Ready rest (states.replace node.id .done) :=
            later.congr fun next member => States.lookup_replace_of_ne (apart next member)
          rcases ih kept with ⟨after, exhausted, passive⟩ | ⟨step, later, after, issued⟩
          · refine .inl ⟨after, ?_, ?_⟩
            · simpa [nextFrom, action, moved] using exhausted
            · simpa [action] using passive
          · refine .inr ⟨step, later, after, ?_, .passed action issued.issues, issued.isOpen, issued.ready⟩
            simpa [nextFrom, action, moved] using issued.handed
      | true =>
          cases rest with
          | nil =>
              refine .inr ⟨.single node, [], states, ?_, .single action (by simp), pending, later⟩
              simp [nextFrom, action]
          | cons next rest =>
              by_cases fuses : mayFuse = true ∧ canFuse edges node next = true
              · have moved := transition_ok .fused pending rfl
                have ne := apart next List.mem_cons_self
                have isOpen : Open (states.replace node.id .fused) (.fused node next) := by
                  refine ⟨?_, ?_, ne.symm⟩
                  · rw [States.lookup_replace, if_pos rfl, pending]
                    rfl
                  · rw [States.lookup_replace_of_ne ne, later.pending next List.mem_cons_self]
                have kept : Ready rest (states.replace node.id .fused) := by
                  apply (Ready.append_right [next] later).congr
                  intro other member
                  exact States.lookup_replace_of_ne (apart other (List.mem_cons_of_mem _ member))
                refine .inr ⟨.fused node next, rest, _, ?_, .fused fuses.1 fuses.2, isOpen, kept⟩
                simp [nextFrom, action, fuses, moved]
              · have alone : ∀ other ∈ (next :: rest).head?, mayFuse = true →
                    canFuse edges node other = false := by
                  rintro other ⟨⟩ may
                  simpa [may] using fuses
                refine .inr ⟨.single node, next :: rest, states, ?_, .single action alone, pending, later⟩
                simp [nextFrom, action, fuses]

/-- A step that a plan hands out, the plan after that, and the plan once the step is completed. -/
structure Steps (plan : Plan) (mayFuse : Bool) (step : FlowStep) (handed done : Plan) : Prop where
  next : plan.next mayFuse = (.ok (some step), handed)
  complete : handed.complete step = (.ok (), done)
  issues : Issues plan.edges mayFuse plan.rest step done.rest
  edges_eq : done.edges = plan.edges
  ready : Ready done.rest done.states

theorem next_of_ready {plan : Plan} (mayFuse : Bool) (ready : Ready plan.rest plan.states) :
    (∃ after, plan.next mayFuse = (.ok none, after) ∧ plan.rest.filter Node.isAction = []) ∨
    ∃ step handed done, Steps plan mayFuse step handed done := by
  rcases nextFrom_of_ready plan.edges mayFuse ready with
    ⟨states, exhausted, passive⟩ | ⟨step, later, states, issued⟩
  · exact .inl ⟨_, by rw [next, exhausted], passive⟩
  · obtain ⟨passed, split⟩ := issued.issues.split
    have apart : ∀ node ∈ later, node.id ∉ step.ids := by
      intro node member clash
      have distinct := ready.distinct
      rw [split, List.append_assoc, List.map_append, List.map_append] at distinct
      exact (List.nodup_append.mp (List.nodup_append.mp distinct).2.1).2.2 node.id clash node.id
        (List.mem_map_of_mem member) rfl
    refine .inr ⟨step, ⟨later, plan.edges, states⟩,
      ⟨later, plan.edges, (completeAll step.ids states).2⟩, ?_, ?_, issued.issues, rfl, ?_⟩
    · rw [next, issued.handed]
    · simp only [complete, completeAll_of_open issued.isOpen]
    · exact issued.ready.congr fun node member => lookup_completeAll (apart node member)

/-- A ready plan hands out the step that its nodes say. -/
theorem Issues.steps {plan : Plan} {mayFuse : Bool} {step : FlowStep} {later : List Node}
    (issues : Issues plan.edges mayFuse plan.rest step later) (ready : Ready plan.rest plan.states) :
    ∃ handed done, Steps plan mayFuse step handed done ∧ done.rest = later := by
  rcases next_of_ready mayFuse ready with ⟨_, _, passive⟩ | ⟨other, handed, done, steps⟩
  · rw [issues.actions_eq] at passive
    cases step <;> cases passive
  · obtain ⟨rfl, same⟩ := issues.unique steps.issues
    exact ⟨handed, done, steps, same⟩

/-! ## All steps -/

theorem drainWithin_eq (mayFuse : Bool) {fuel other : Nat} {plan : Plan}
    (ready : Ready plan.rest plan.states) (enough : plan.rest.length < fuel)
    (more : plan.rest.length < other) :
    plan.drainWithin mayFuse fuel = plan.drainWithin mayFuse other := by
  induction fuel generalizing other plan with
  | zero => exact absurd enough (Nat.not_lt_zero _)
  | succ fuel ih =>
      cases other with
      | zero => exact absurd more (Nat.not_lt_zero _)
      | succ other =>
          rcases next_of_ready mayFuse ready with ⟨after, exhausted, _⟩ | ⟨step, handed, done, steps⟩
          · simp only [drainWithin, exhausted]
          · have shorter := steps.issues.length_lt
            have same := ih steps.ready (by omega) (show _ < other by omega)
            simp only [drainWithin, steps.next, steps.complete, same]

theorem drain_of_steps {plan handed done : Plan} {step : FlowStep} {mayFuse : Bool}
    (steps : plan.Steps mayFuse step handed done) :
    (plan.drain mayFuse).1 = step :: (done.drain mayFuse).1 := by
  have same := drainWithin_eq mayFuse steps.ready steps.issues.length_lt (Nat.lt_succ_self _)
  unfold drain
  rw [drainWithin]
  simp only [steps.next, steps.complete, same]

theorem drain_of_exhausted {plan after : Plan} {mayFuse : Bool}
    (exhausted : plan.next mayFuse = (.ok none, after)) : (plan.drain mayFuse).1 = [] := by
  unfold drain
  simp only [drainWithin, exhausted]

/-- Induction along the steps of a ready plan. -/
theorem drain_induction {mayFuse : Bool} {motive : Plan → List FlowStep → Prop}
    (exhausted : ∀ plan, plan.rest.filter Node.isAction = [] → motive plan [])
    (went : ∀ plan step handed done, plan.Steps mayFuse step handed done →
      motive done (done.drain mayFuse).1 → motive plan (step :: (done.drain mayFuse).1))
    {plan : Plan} (ready : Ready plan.rest plan.states) : motive plan (plan.drain mayFuse).1 := by
  induction length : plan.rest.length using Nat.strongRecOn generalizing plan with
  | ind length ih =>
      rcases next_of_ready mayFuse ready with ⟨after, ended, passive⟩ | ⟨step, handed, done, steps⟩
      · rw [drain_of_exhausted ended]
        exact exhausted plan passive
      · rw [drain_of_steps steps]
        exact went plan step handed done steps
          (ih _ (length ▸ steps.issues.length_lt) steps.ready rfl)

end Plan

end ChainFlow
