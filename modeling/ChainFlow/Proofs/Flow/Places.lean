import ChainFlow.Proofs.Flow.Accounts
import ChainFlow.Proofs.Flow.Chains

/-!
# Where a step is taken

The chain on which a step is taken is that of the last bridge before it in the order of the nodes, or
the one where the flow starts: whether bridges are taken alone or fused, whether they can be quoted or
not, and whatever the backend does. So all that a step names is known from the order alone.
-/

namespace ChainFlow

variable {σ α : Type}

/-- The chain to which some nodes lead: that of the last bridge among them, or the one from which they
lead if there is none. -/
def chainAfter (chain : ChainId) (passed : List Node) : ChainId :=
  ((passed.filterMap Node.bridge?).getLast?).elim chain Bridge.toChain

/-- A step that is taken where the nodes before it in an order lead. -/
def Visit.Placed (order : List Node) (start : Start) (visit : Visit σ α) : Prop :=
  ∃ passed later, order = passed ++ visit.step.nodes ++ later ∧
    visit.location = ⟨start.token, chainAfter start.chain passed⟩

namespace Visit

/-- A step of a run as it is bound to the chain on which it is taken: by the calls sent for it, and by
the link to a transaction that is only pretended. -/
structure PerformedThere (engine : Engine σ) (order : List Node) (start : Start)
    (visit : Visit σ Outcome) : Prop where
  placed : visit.Placed order start
  addressed : ∀ call ∈ visit.sent, visit.step.Addressed .perform visit.location.chain call
  pretended : visit.after.issued ≠ visit.before.issued →
    ∃ outcome hash, visit.results = [outcome] ∧ outcome.hash = some hash ∧
      outcome.url = some (ChainId.transactionUrl visit.location.chain hash engine.explorer)

/-- A step of a dry run as it is bound to the chain on which it is taken: by the calls sent for it, and
by the routes of its quotes. -/
structure QuotedThere (order : List Node) (start : Start) (visit : Visit σ Quote) : Prop where
  placed : visit.Placed order start
  addressed : ∀ call ∈ visit.sent, visit.step.Addressed .quote visit.location.chain call
  routed : visit.step.Routed visit.location.chain visit.results

end Visit

/-! ## Chains along an order -/

theorem chainAfter_append (chain : ChainId) (first second : List Node) :
    chainAfter chain (first ++ second) = chainAfter (chainAfter chain first) second := by
  unfold chainAfter
  rw [List.filterMap_append, List.getLast?_append]
  cases (second.filterMap Node.bridge?).getLast? <;> rfl

theorem chainAfter_of_bridgeless {passed : List Node}
    (bridgeless : ∀ node ∈ passed, node.bridge? = none) (chain : ChainId) :
    chainAfter chain passed = chain := by
  rw [chainAfter, List.filterMap_eq_nil_iff.mpr bridgeless]
  rfl

theorem chainAfter_of_passive {passed : List Node}
    (passive : ∀ node ∈ passed, node.isAction = false) (chain : ChainId) :
    chainAfter chain passed = chain := by
  refine chainAfter_of_bridgeless (fun node member => ?_) chain
  cases isBridge : node.bridge? with
  | none => rfl
  | some bridge =>
      have idle := passive node member
      rw [isAction_of_bridge? isBridge] at idle
      cases idle

theorem FlowStep.chainAfter_nodes {step : FlowStep} (isSound : step.IsSound) (location : Location) :
    location.after step.first = ⟨location.token, chainAfter location.chain step.nodes⟩ := by
  have alone (node : Node) :
      location.after node = ⟨location.token, chainAfter location.chain [node]⟩ := by
    unfold Location.after chainAfter
    rw [List.filterMap_cons]
    cases node.bridge? <;> rfl
  cases step with
  | single node => exact alone node
  | fused first second =>
      obtain ⟨_, call, _, isCall⟩ := isSound.parts
      have behind := chainAfter_of_bridgeless
        (List.forall_mem_singleton.mpr (bridge?_of_call? isCall)) (chainAfter location.chain [first])
      rw [← chainAfter_append] at behind
      exact (alone first).trans (congrArg (Location.mk location.token) behind.symm)

/-- Every step of a tour is taken where the nodes before it lead. -/
theorem Tour.placed {take : FlowStep → Location → World σ → List α × World σ} {edges : List Edge}
    {rest : List Node} {location : Location} {world final : World σ} {visits : List (Visit σ α)}
    (tour : Tour take edges rest location world visits final) :
    ∀ visit ∈ visits, ∃ passed later, rest = passed ++ visit.step.nodes ++ later ∧
      visit.location = ⟨location.token, chainAfter location.chain passed⟩ := by
  induction tour with
  | ended _ => simp
  | @went mayFuse rest later step location world opened next final visits issues _ _ _ ih =>
      -- What is passed over is no bridge, so the step is taken where the plan stood.
      obtain ⟨skipped, passive, split⟩ := issues.split_passive
      have here := chainAfter_of_passive passive location.chain
      refine List.forall_mem_cons.mpr ⟨⟨skipped, later, split, ?_⟩, fun visit member => ?_⟩
      · rw [here]
        rfl
      · obtain ⟨passed, after, again, located⟩ := ih visit member
        refine ⟨skipped ++ step.nodes ++ passed, after, ?_, ?_⟩
        · rw [split, again]
          simp only [List.append_assoc]
        · rw [located, FlowStep.chainAfter_nodes issues.isSound, chainAfter_append,
            chainAfter_append, here]

/-! ## Runs and dry runs -/

namespace Engine

variable (engine : Engine σ)

theorem addressed_of_mem_callsIn {purpose : Purpose} {step : FlowStep} (isSound : step.IsSound)
    {location : Location} {world : World σ} {call : Call}
    (member : call ∈ engine.callsIn purpose step location world) :
    step.Addressed purpose location.chain call := by
  unfold callsIn at member
  split at member
  · cases asks : step.request? engine.vaults location with
    | none =>
        rw [asks] at member
        cases member
    | some request =>
        rw [asks] at member
        exact addressed_of_requested isSound asks (eq_singleton_of_mem_requested member)
  · cases member

theorem pretended_of_issued {visit : Visit σ Outcome} (isSound : visit.step.IsSound)
    (taken : visit = Visit.of engine.performStepSafely visit.step visit.location visit.before)
    (issued : visit.after.issued ≠ visit.before.issued) :
    ∃ outcome hash, visit.results = [outcome] ∧ outcome.hash = some hash ∧
      outcome.url = some (ChainId.transactionUrl visit.location.chain hash engine.explorer) := by
  have performs := engine.performs_of_taken isSound taken
  obtain ⟨step, location, before, results, after⟩ := visit
  dsimp only at performs issued ⊢
  cases performs with
  | unasked _ _ => exact absurd rfl issued
  | stopped _ _ => exact absurd (engine.probe_issued before) issued
  | pretended _ _ _ => exact ⟨_, _, rfl, rfl, rfl⟩
  | asked _ _ _ inquiry _ => exact absurd (inquiry.issued_eq.trans (engine.probe_issued before)) issued

/-- Every step of a run and of a dry run is taken where the last bridge before it leads, and what is
sent and told for it names that chain, or that of its own bridge. -/
theorem steps_placed {nodes : List Node} {node : Node} {start : Start}
    (runnable : Graph.requireRunnable nodes = .ok (node, start)) (delay : Int)
    (observer : Option Observer) (rate : Binary64) (edges : List Edge) (world : World σ) :
    ((engine.performFlowVisits delay observer nodes edges world).2 =
        engine.performFlow delay observer nodes edges world ∧
      engine.Accounts (engine.performFlowVisits delay observer nodes edges world).1 world
        (engine.performFlow delay observer nodes edges world) ∧
      ∀ visit ∈ (engine.performFlowVisits delay observer nodes edges world).1,
        visit.PerformedThere engine (Graph.order nodes edges) start) ∧
    (engine.quoteFlowVisits rate nodes edges world).2 = engine.quoteFlow rate nodes edges world ∧
      engine.Inspects (engine.quoteFlowVisits rate nodes edges world).1 world
        (engine.quoteFlow rate nodes edges world) ∧
      ∀ visit ∈ (engine.quoteFlowVisits rate nodes edges world).1,
        visit.QuotedThere (Graph.order nodes edges) start := by
  have run := (engine.recounts_performFlow runnable delay observer edges world).tour
  have dryRun := (engine.tour_quoteFlow runnable rate edges world).1
  refine ⟨⟨engine.performFlowVisits_snd _ _ _ _ _, engine.accounts_performFlow _ _ _ _ _,
    fun visit member => ?_⟩, engine.quoteFlowVisits_snd _ _ _ _, engine.inspects_quoteFlow _ _ _ _,
    fun visit member => ?_⟩
  · obtain ⟨isSound, taken⟩ := run.taken visit member
    refine ⟨run.placed visit member, fun call sent => ?_, engine.pretended_of_issued isSound taken⟩
    rw [engine.sent_of_performed isSound taken] at sent
    exact engine.addressed_of_mem_callsIn isSound sent
  · obtain ⟨isSound, taken⟩ := dryRun.taken visit member
    refine ⟨dryRun.placed visit member, fun call sent => ?_, ?_⟩
    · rw [engine.sent_of_quoted taken] at sent
      exact engine.addressed_of_mem_callsIn isSound sent
    · rw [taken]
      exact engine.routed_quoteStepSafely isSound _ _

theorem steps_placed_sample :
    (∀ visit ∈ (Sample.engine.performFlowVisits 0 none Sample.nodes Sample.edges (.fresh 0 ())).1,
      visit.PerformedThere Sample.engine (Graph.order Sample.nodes Sample.edges)
        ⟨84532, .usdc, none, none⟩) ∧
    ∀ visit ∈ (Sample.engine.quoteFlowVisits (.zero false) Sample.nodes Sample.edges (.fresh 0 ())).1,
      visit.QuotedThere (Graph.order Sample.nodes Sample.edges) ⟨84532, .usdc, none, none⟩ := by
  have runnable : Graph.requireRunnable Sample.nodes =
      .ok (Sample.start "s" 84532, ⟨84532, .usdc, none, none⟩) := rfl
  obtain ⟨⟨_, _, performed⟩, _, _, quoted⟩ :=
    Sample.engine.steps_placed runnable 0 none (.zero false) Sample.edges (.fresh 0 ())
  exact ⟨performed, quoted⟩

end Engine

end ChainFlow
