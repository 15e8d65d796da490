import ChainFlow.Proofs.Flow.Accounts
import ChainFlow.Proofs.Flow.Complete
import ChainFlow.Proofs.Flow.Places
import ChainFlow.Proofs.Sample
import Mathlib.Data.List.Nodup

/-!
# Swaps

A swap is a contract call that no backend is asked for. A plan never makes it part of a bridge, and a
step that has one is refused before anything else happens, be it performed or quoted. So a run stops at
a swap, while a dry run passes it over.
-/

namespace ChainFlow

variable {σ α : Type}

def Node.IsSwap (node : Node) : Prop := ∃ call, node.call? = some call ∧ call.action = .swap

/-- The outcome of a swap. -/
def Outcome.ofSwap (id : String) (now : Int) : Outcome :=
  ⟨id, false, none, none, some "Swap action is not yet implemented", now⟩

/-- The quote of a swap. -/
def Quote.ofSwap (id : String) : Quote := .failed id "Swap action is not yet implemented"

/-- A visit that is paid to a node alone, leaves everything as it was and has the given result. -/
structure Visit.Refused (visit : Visit σ α) (node : Node) (answer : α) : Prop where
  step_eq : visit.step = .single node
  results_eq : visit.results = [answer]
  after_eq : visit.after = visit.before

theorem Fault.messageOr_swap (otherwise : String) :
    (Fault.unsupported .swap).messageOr otherwise = "Swap action is not yet implemented" := by
  have words : (Fault.unsupported .swap).message = "Swap action is not yet implemented" := rfl
  rw [messageOr, words, if_neg (by decide)]

/-! ## Steps with a swap -/

theorem role_of_call? {node : Node} {call : ContractCall} (isCall : node.call? = some call) :
    ∃ estimate, node.role = .action (.call call) estimate := by
  unfold Node.call? at isCall
  split at isCall
  · rename_i found estimate role
    cases isCall
    exact ⟨estimate, role⟩
  · cases isCall

theorem role_of_bridge? {node : Node} {bridge : Bridge} (isBridge : node.bridge? = some bridge) :
    ∃ estimate, node.role = .action (.bridge bridge) estimate := by
  unfold Node.bridge? at isBridge
  split at isBridge
  · rename_i found estimate role
    cases isBridge
    exact ⟨estimate, role⟩
  · cases isBridge

theorem Node.IsSwap.isAction {node : Node} (isSwap : node.IsSwap) : node.isAction = true := by
  obtain ⟨call, isCall, _⟩ := isSwap
  exact isAction_of_call? isCall

theorem Node.IsSwap.bridge?_eq {node : Node} (isSwap : node.IsSwap) : node.bridge? = none := by
  obtain ⟨call, isCall, _⟩ := isSwap
  exact bridge?_of_call? isCall

/-- A swap in a fused step is the call behind the bridge. -/
theorem FlowStep.IsSound.swap_parts {first second node : Node}
    (isSound : (FlowStep.fused first second).IsSound)
    (member : node ∈ (FlowStep.fused first second).nodes) (isSwap : node.IsSwap) :
    ∃ bridge call, first.bridge? = some bridge ∧ second.call? = some call ∧ call.action = .swap := by
  obtain ⟨bridge, call, isBridge, isCall⟩ := isSound.parts
  rcases List.mem_cons.mp member with rfl | behind
  · rw [isSwap.bridge?_eq] at isBridge
    cases isBridge
  · obtain rfl := List.mem_singleton.mp behind
    obtain ⟨own, isOwn, swap⟩ := isSwap
    exact ⟨bridge, own, isBridge, isOwn, swap⟩

namespace Engine

variable (engine : Engine σ)

theorem runIn_performStep_swap {step : FlowStep} (isSound : step.IsSound) {node : Node}
    (member : node ∈ step.nodes) (isSwap : node.IsSwap) (location : Location) (world : World σ) :
    (engine.performStep step location).runIn world = (.error (.unsupported .swap), world) := by
  cases step with
  | single own =>
      obtain rfl := List.mem_singleton.mp member
      obtain ⟨call, isCall, swap⟩ := isSwap
      obtain ⟨estimate, role⟩ := role_of_call? isCall
      simp only [performStep, performNode, role, performCall, swap, reduceIte]
      rfl
  | fused first second =>
      obtain ⟨bridge, call, isBridge, isCall, swap⟩ := isSound.swap_parts member isSwap
      simp only [performStep, isBridge, isCall, performFused, swap, reduceIte]
      rfl

theorem runIn_quoteStep_swap {step : FlowStep} (isSound : step.IsSound) {node : Node}
    (member : node ∈ step.nodes) (isSwap : node.IsSwap) (location : Location) (world : World σ) :
    (engine.quoteStep step location).runIn world = (.error (.unsupported .swap), world) := by
  cases step with
  | single own =>
      obtain rfl := List.mem_singleton.mp member
      obtain ⟨call, isCall, swap⟩ := isSwap
      obtain ⟨estimate, role⟩ := role_of_call? isCall
      simp only [quoteStep, quoteNode, role, quoteCall, requireSupported, swap, reduceIte]
      rfl
  | fused first second =>
      obtain ⟨bridge, call, isBridge, isCall, swap⟩ := isSound.swap_parts member isSwap
      simp only [quoteStep, isBridge, isCall, quoteFused, requireSupported, swap, reduceIte]
      rfl

/-- A step with a swap, be it one that a plan would never hand out, is not performed. -/
theorem performStepSafely_swap {step : FlowStep} (isSound : step.IsSound) {node : Node}
    (member : node ∈ step.nodes) (isSwap : node.IsSwap) (location : Location) (world : World σ) :
    engine.performStepSafely step location world =
      (step.ids.map (Outcome.ofSwap · world.clock), world) := by
  simp only [performStepSafely, engine.runIn_performStep_swap isSound member isSwap,
    Fault.messageOr_swap]
  rfl

theorem quoteStepSafely_swap {step : FlowStep} (isSound : step.IsSound) {node : Node}
    (member : node ∈ step.nodes) (isSwap : node.IsSwap) (location : Location) (world : World σ) :
    engine.quoteStepSafely step location world = (step.ids.map Quote.ofSwap, world) := by
  simp only [quoteStepSafely, engine.runIn_quoteStep_swap isSound member isSwap,
    Fault.messageOr_swap]
  rfl

end Engine

/-! ## Plans with a swap -/

namespace Plan.Issues

variable {edges : List Edge} {mayFuse : Bool} {rest later : List Node} {step : FlowStep}

theorem single_of_swap (issues : Issues edges mayFuse rest step later) {node : Node}
    (member : node ∈ step.nodes) (isSwap : node.IsSwap) : step = .single node := by
  induction issues with
  | passed _ _ ih => exact ih member
  | fused _ fusible =>
      obtain ⟨⟨bridge, isBridge⟩, ⟨call, isCall, supported⟩, _⟩ := canFuse_iff.mp fusible
      rcases List.mem_cons.mp member with rfl | behind
      · rw [isSwap.bridge?_eq] at isBridge
        cases isBridge
      · obtain rfl := List.mem_singleton.mp behind
        obtain ⟨own, isOwn, swap⟩ := isSwap
        cases isCall.symm.trans isOwn
        exact absurd swap supported
  | single _ _ => rw [List.mem_singleton.mp member]

/-- The next step comes before a swap or is the swap. -/
theorem before_swap (issues : Issues edges mayFuse rest step later) {before after : List Node}
    {node : Node} (isSwap : node.IsSwap) (split : rest = before ++ node :: after) :
    (∃ between, later = between ++ node :: after ∧
      before.filter Node.isAction = step.nodes ++ between.filter Node.isAction) ∨
    step = .single node ∧ before.filter Node.isAction = [] := by
  induction issues generalizing before with
  | @passed passive rest later step isPassive _ ih =>
      cases before with
      | nil =>
          cases split
          rw [isSwap.isAction] at isPassive
          cases isPassive
      | cons first before =>
          cases split
          rw [List.filter_cons_of_neg (by simp [isPassive])]
          exact ih rfl
  | @fused first next later may fusible =>
      have issues : Issues edges mayFuse (first :: next :: later) (.fused first next) later :=
        .fused may fusible
      rcases before with _ | ⟨own, _ | ⟨partner, between⟩⟩
      · cases split
        cases issues.single_of_swap List.mem_cons_self isSwap
      · cases split
        cases issues.single_of_swap (List.mem_cons_of_mem _ List.mem_cons_self) isSwap
      · cases split
        exact .inl ⟨between, rfl, (Issues.fused may fusible).actions_eq⟩
  | @single own later action _ =>
      cases before with
      | nil =>
          cases split
          exact .inr ⟨rfl, rfl⟩
      | cons first between =>
          cases split
          refine .inl ⟨between, rfl, ?_⟩
          rw [List.filter_cons_of_pos action]
          rfl

theorem nodes_initial (issues : Issues edges mayFuse rest step later) {before after : List Node}
    {node : Node} (isSwap : node.IsSwap) (split : rest = before ++ node :: after) :
    step.nodes <+: (before ++ [node]).filter Node.isAction := by
  rw [List.filter_append, List.filter_cons_of_pos isSwap.isAction]
  rcases issues.before_swap isSwap split with ⟨between, _, actions⟩ | ⟨rfl, none⟩
  · rw [actions, List.append_assoc]
    exact List.prefix_append _ _
  · rw [none]
    exact List.prefix_refl _

end Plan.Issues

/-! ## Visits to a swap -/

namespace Tour

variable {take : FlowStep → Location → World σ → List α × World σ} {edges : List Edge}
  {rest : List Node} {location : Location} {world final : World σ} {visits : List (Visit σ α)}

/-- Every step of a tour is handed out by the plan. -/
theorem issued (tour : Tour take edges rest location world visits final) :
    ∀ visit ∈ visits, ∃ mayFuse passed left later, rest = passed ++ left ∧
      Plan.Issues edges mayFuse left visit.step later := by
  induction tour with
  | ended _ => simp
  | @went mayFuse rest later step location world opened next final visits issues _ _ _ ih =>
      refine List.forall_mem_cons.mpr ⟨⟨mayFuse, [], rest, later, rfl, issues⟩, fun visit member => ?_⟩
      obtain ⟨skipped, split⟩ := issues.split
      obtain ⟨mayFuse, passed, left, later, again, issues⟩ := ih visit member
      refine ⟨mayFuse, skipped ++ step.nodes ++ passed, left, later, ?_, issues⟩
      rw [split, again, List.append_assoc _ passed]

theorem mem_rest (tour : Tour take edges rest location world visits final) {visit : Visit σ α}
    (visited : visit ∈ visits) {node : Node} (member : node ∈ visit.step.nodes) : node ∈ rest := by
  obtain ⟨_, passed, left, later, rfl, issues⟩ := tour.issued visit visited
  obtain ⟨skipped, rfl⟩ := issues.split
  simp [member]

theorem refused (tour : Tour take edges rest location world visits final) {node : Node}
    (isSwap : node.IsSwap) {answer : World σ → α}
    (refuses : ∀ location world, take (.single node) location world = ([answer world], world))
    {visit : Visit σ α} (visited : visit ∈ visits) (member : node ∈ visit.step.nodes) :
    visit.Refused node (answer visit.before) := by
  obtain ⟨_, _, _, _, _, issues⟩ := tour.issued visit visited
  have step_eq := issues.single_of_swap member isSwap
  have taken := (tour.taken visit visited).2
  rw [step_eq, Visit.of, refuses] at taken
  exact ⟨step_eq, congrArg (·.results) taken, congrArg (·.after) taken⟩

/-- What names a swap is its refusal, if the results of a step name its nodes. -/
theorem eq_of_names_swap (tour : Tour take edges rest location world visits final) (name : α → String)
    (named : ∀ visit ∈ visits, visit.results.map name = visit.step.ids)
    (distinct : (rest.map (·.id)).Nodup) {node : Node} (ordered : node ∈ rest)
    (isSwap : node.IsSwap) {answer : World σ → α}
    (refuses : ∀ location world, take (.single node) location world = ([answer world], world))
    {visit : Visit σ α} (visited : visit ∈ visits) {result : α} (among : result ∈ visit.results)
    (names : name result = node.id) : result = answer visit.before := by
  have stepped : node.id ∈ visit.step.ids := by
    rw [← names, ← named visit visited]
    exact List.mem_map_of_mem among
  obtain ⟨own, member, same⟩ := List.mem_map.mp stepped
  obtain rfl := List.inj_on_of_nodup_map distinct (tour.mem_rest visited member) ordered same
  have refused := tour.refused isSwap refuses visited member
  rw [refused.results_eq] at among
  exact List.mem_singleton.mp among

end Tour

namespace Engine

variable (engine : Engine σ)

theorem performStepSafely_of_swap {node : Node} (isSwap : node.IsSwap) (location : Location)
    (world : World σ) : engine.performStepSafely (.single node) location world =
      ([Outcome.ofSwap node.id world.clock], world) := by
  have isSound : (FlowStep.single node).IsSound := trivial
  exact engine.performStepSafely_swap isSound List.mem_cons_self isSwap location world

theorem quoteStepSafely_of_swap {node : Node} (isSwap : node.IsSwap) (location : Location)
    (world : World σ) : engine.quoteStepSafely (.single node) location world =
      ([Quote.ofSwap node.id], world) := by
  have isSound : (FlowStep.single node).IsSound := trivial
  exact engine.quoteStepSafely_swap isSound List.mem_cons_self isSwap location world

/-- A run that has a swap ahead fails, and does not begin anything behind the swap. -/
theorem stops_performVisits (delay : Int) (observer : Option Observer) (fuel : Nat) (first : Bool)
    {plan : Plan} (location : Location) (run : FlowRun) (world : World σ)
    (enough : plan.rest.length < fuel) (ready : Plan.Ready plan.rest plan.states)
    {before after : List Node} {node : Node} (isSwap : node.IsSwap)
    (split : plan.rest = before ++ node :: after) :
    (engine.performVisits delay observer fuel first plan location run world).2.1.status = .failed ∧
      (engine.performVisits delay observer fuel first plan location run world).1.flatMap
        (·.step.nodes) <+: (before ++ [node]).filter Node.isAction := by
  induction fuel generalizing first plan location run world before with
  | zero => exact absurd enough (Nat.not_lt_zero _)
  | succ fuel ih =>
      rcases Plan.next_of_ready (engine.probe world).1 ready with
        ⟨_, _, passive⟩ | ⟨step, handed, done, steps⟩
      · have action : node ∈ plan.rest.filter Node.isAction :=
          List.mem_filter.mpr ⟨by simp [split], isSwap.isAction⟩
        rw [passive] at action
        cases action
      · have shorter := steps.issues.length_lt
        have begun := steps.issues.nodes_initial isSwap split
        rw [engine.performVisits_of_steps steps]
        rcases engine.recordedStep delay observer first step location run world with
          ⟨_ | fault, run', world'⟩
        · dsimp only
          split
          · rename_i success
            rcases steps.issues.before_swap isSwap split with ⟨between, later, actions⟩ | ⟨rfl, _⟩
            · obtain ⟨status, rest⟩ := ih false (location.after step.first) run' world' (by omega)
                steps.ready later
              refine ⟨status, ?_⟩
              rw [List.flatMap_cons, List.filter_append, actions, List.append_assoc,
                ← List.filter_append]
              exact (List.prefix_append_right_inj _).mpr rest
            -- The step is the swap, and a refusal is no success.
            · rw [Visit.of, engine.performStepSafely_of_swap isSwap] at success
              cases success
          · exact ⟨rfl, by simpa [Visit.of] using begun⟩
        · exact ⟨rfl, by simpa [Visit.of] using begun⟩

/-- What a run makes of swaps: each that it comes to is refused with nothing sent, drawn or issued for
it, and is the last that it begins. -/
structure RefusesInRun (delay : Int) (observer : Option Observer) (nodes : List Node)
    (edges : List Edge) (world : World σ) : Prop where
  accounts : engine.Accounts (engine.performFlowVisits delay observer nodes edges world).1 world
    (engine.performFlow delay observer nodes edges world)
  refused : ∀ visit ∈ (engine.performFlowVisits delay observer nodes edges world).1,
    ∀ node ∈ visit.step.nodes, node.IsSwap →
      visit.Refused node (.ofSwap node.id visit.before.clock)
  told : ∀ node ∈ Graph.order nodes edges, node.IsSwap →
    ∀ outcome ∈ (engine.performFlow delay observer nodes edges world).1.outcomes,
      outcome.node = node.id →
        (∃ now, outcome = .ofSwap node.id now) ∨ ∃ fault now, outcome = FlowRun.faultOutcome fault now
  stops : ∀ before node after, Graph.order nodes edges = before ++ node :: after → node.IsSwap →
    (engine.performFlow delay observer nodes edges world).1.status = .failed ∧
      (engine.performFlowVisits delay observer nodes edges world).1.flatMap (·.step.nodes) <+:
        (before ++ [node]).filter Node.isAction

/-- What a dry run makes of swaps: each that it comes to is refused with nothing sent or drawn for it,
and all other actions are quoted. -/
structure RefusesInDryRun (rate : Binary64) (nodes : List Node) (edges : List Edge)
    (world : World σ) : Prop where
  inspects : engine.Inspects (engine.quoteFlowVisits rate nodes edges world).1 world
    (engine.quoteFlow rate nodes edges world)
  refused : ∀ visit ∈ (engine.quoteFlowVisits rate nodes edges world).1,
    ∀ node ∈ visit.step.nodes, node.IsSwap → visit.Refused node (.ofSwap node.id)
  told : ∀ node ∈ Graph.order nodes edges, node.IsSwap →
    ∀ quote, (engine.quoteFlow rate nodes edges world).1 = .ok quote →
      ∀ own ∈ quote.quotes, own.node = node.id → own = .ofSwap node.id
  covers : ∀ found, Graph.requireRunnable nodes = .ok found →
    (engine.quoteFlowVisits rate nodes edges world).1.flatMap (·.step.nodes) =
      (Graph.order nodes edges).filter Node.isAction

theorem refusesInRun (delay : Int) (observer : Option Observer) (nodes : List Node)
    (edges : List Edge) (world : World σ) :
    engine.RefusesInRun delay observer nodes edges world := by
  have accounts := engine.accounts_performFlow delay observer nodes edges world
  cases runnable : Graph.requireRunnable nodes with
  | error cause =>
      have nowhere : (engine.performFlowVisits delay observer nodes edges world).1 = [] := by
        simp only [performFlowVisits, runnable]
      refine ⟨accounts, by simp [nowhere], fun node _ _ outcome member _ => ?_, ?_⟩
      · refine .inr ((accounts.told outcome member).resolve_left ?_)
        simp [nowhere]
      · intro before node after _ _
        rw [nowhere]
        refine ⟨?_, List.nil_prefix⟩
        simp only [performFlow, runnable]
        rfl
  | ok found =>
      obtain ⟨node, start⟩ := found
      have distinct : ((Graph.order nodes edges).map (·.id)).Nodup :=
        Graph.order_distinct (Graph.startNode?_of_runnable runnable)
      have tour := (engine.recounts_performFlow runnable delay observer edges world).tour
      refine ⟨accounts, ?_, ?_, ?_⟩
      · intro visit visited node member isSwap
        exact tour.refused isSwap (engine.performStepSafely_of_swap isSwap) visited member
      · intro node ordered isSwap outcome member names
        rcases accounts.told outcome member with ⟨visit, visited, among⟩ | fault
        · refine .inl ⟨_, tour.eq_of_names_swap Outcome.node ?_ distinct ordered isSwap
            (engine.performStepSafely_of_swap isSwap) visited among names⟩
          intro visit visited
          obtain ⟨isSound, taken⟩ := tour.taken visit visited
          rw [taken]
          exact (engine.shared_performStepSafely isSound _ _).nodes
        · exact .inr fault
      · intro before node after split isSwap
        rw [← engine.performFlowVisits_snd]
        simp only [performFlowVisits, runnable]
        exact engine.stops_performVisits _ _ _ _ _ _ _ (Nat.lt_succ_self _)
          (Plan.ready_ofOrder distinct) isSwap split

theorem refusesInDryRun (rate : Binary64) (nodes : List Node) (edges : List Edge)
    (world : World σ) : engine.RefusesInDryRun rate nodes edges world := by
  have inspects := engine.inspects_quoteFlow rate nodes edges world
  cases runnable : Graph.requireRunnable nodes with
  | error cause =>
      have nowhere : (engine.quoteFlowVisits rate nodes edges world).1 = [] := by
        simp only [quoteFlowVisits, runnable]
      refine ⟨inspects, by simp [nowhere], fun node _ _ quote done own member _ => ?_, ?_⟩
      · rw [inspects.quotes_eq quote done, nowhere] at member
        cases member
      · intro found isFound
        cases runnable.symm.trans isFound
  | ok found =>
      obtain ⟨node, start⟩ := found
      have distinct : ((Graph.order nodes edges).map (·.id)).Nodup :=
        Graph.order_distinct (Graph.startNode?_of_runnable runnable)
      have tour := (engine.tour_quoteFlow runnable rate edges world).1
      refine ⟨inspects, ?_, ?_, ?_⟩
      · intro visit visited node member isSwap
        exact tour.refused isSwap (engine.quoteStepSafely_of_swap isSwap) visited member
      · intro node ordered isSwap quote done own member names
        rw [inspects.quotes_eq quote done] at member
        obtain ⟨visit, visited, among⟩ := List.mem_flatMap.mp member
        refine tour.eq_of_names_swap Quote.node ?_ distinct ordered isSwap
          (engine.quoteStepSafely_of_swap isSwap) visited among names
        intro visit visited
        obtain ⟨isSound, taken⟩ := tour.taken visit visited
        rw [taken]
        exact engine.names_quoteStepSafely isSound _ _
      · intro _ _
        exact engine.nodes_quoteFlow runnable rate edges world

/-- Whatever the backend does, nothing is ever done for a swap: a run ends where it comes to one, and a
dry run quotes all the rest. -/
theorem swap_inert (delay : Int) (observer : Option Observer) (rate : Binary64) (nodes : List Node)
    (edges : List Edge) (world : World σ) :
    engine.RefusesInRun delay observer nodes edges world ∧
      engine.RefusesInDryRun rate nodes edges world :=
  ⟨engine.refusesInRun delay observer nodes edges world, engine.refusesInDryRun rate nodes edges world⟩

/-- A bridge with a swap right behind it, and a transfer behind that. -/
def swapNodes : List Node :=
  [Sample.start "s" 84532, Sample.bridge "b" 11155111 "5", Sample.call "x" .swap "2",
    Sample.transfer "t" "1" "0xabc"]

def swapEdges : List Edge := [Sample.edge "s" "b", Sample.edge "b" "x", Sample.edge "x" "t"]

theorem swap_inert_sample :
    (Sample.engine.performFlow 0 none swapNodes swapEdges (.fresh 0 ())).1.status = .failed ∧
    ((Sample.engine.performFlowVisits 0 none swapNodes swapEdges (.fresh 0 ())).1.flatMap
      (·.step.nodes)).map (·.id) <+: ["b", "x"] ∧
    ((Sample.engine.quoteFlowVisits (.zero false) swapNodes swapEdges (.fresh 0 ())).1.flatMap
      (·.step.nodes)).map (·.id) = ["b", "x", "t"] := by
  obtain ⟨run, dryRun⟩ :=
    Sample.engine.swap_inert 0 none (.zero false) swapNodes swapEdges (.fresh 0 ())
  obtain ⟨status, begun⟩ := run.stops [Sample.start "s" 84532, Sample.bridge "b" 11155111 "5"]
    (Sample.call "x" .swap "2") [Sample.transfer "t" "1" "0xabc"] rfl ⟨_, rfl, rfl⟩
  refine ⟨status, begun.map _, ?_⟩
  rw [dryRun.covers _ rfl]
  rfl

end Engine

end ChainFlow
