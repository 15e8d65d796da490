import ChainFlow.Proofs.Flow.Accounts
import ChainFlow.Proofs.Sample

/-!
# The record of what was performed

What a backend has replied for a step is told whole by the outcomes of the step. The record of a run
holds them all, whatever its observer does, but for one case: a bridge and a contract call are
performed in one, and told of one after the other. An observer that stops the run when it is told of
the bridge leaves the call, which has been performed as well, out of the record.
-/

namespace ChainFlow

variable {σ : Type}

/-- The fault with which an observer stops a run when it is told of an outcome, if it does. -/
def FlowRun.objection (observer : Option Observer) (world : World σ) (outcome : Outcome) :
    Option Fault :=
  observer.bind fun heard => heard world.notices outcome

namespace Visit

/-- A step that sends one call at most, and whose outcomes are all that the reply makes of it. -/
def Carries (engine : Engine σ) (visit : Visit σ Outcome) : Prop :=
  ∀ call ∈ visit.sent, ∃ backend, engine.backend = some backend ∧ visit.sent = [call] ∧
    visit.results = visit.step.reported
      (backend.answer call (engine.probe visit.before).2.backend).1.answer visit.after.clock

/-- A fused pair of whose bridge an observer was told, only to stop the run with a fault. -/
structure Torn (observer : Option Observer) (visit : Visit σ Outcome) (bridge call : Outcome)
    (fault : Fault) : Prop where
  fused : ∃ first second, visit.step = .fused first second
  results_eq : visit.results = [bridge, call]
  objects : FlowRun.objection observer visit.after bridge = some fault

end Visit

/-- What the record of a run holds for its visits, one after the other: all their outcomes, and at the
end that of a fault if the run was stopped by one. A pair that is torn is the last. -/
inductive Audited (observer : Option Observer) : List (Visit σ Outcome) → List Outcome → Prop
  | ended : Audited observer [] []
  | stopped (fault : Fault) (now : Int) : Audited observer [] [FlowRun.faultOutcome fault now]
  | torn {visit : Visit σ Outcome} {bridge call : Outcome} {fault : Fault} (now : Int) :
      visit.Torn observer bridge call fault →
      Audited observer [visit] [bridge, FlowRun.faultOutcome fault now]
  | whole {visit : Visit σ Outcome} {visits : List (Visit σ Outcome)} {outcomes : List Outcome} :
      (∀ bridge call fault, ¬ visit.Torn observer bridge call fault) →
      Audited observer visits outcomes → Audited observer (visit :: visits) (visit.results ++ outcomes)

theorem Audited.subset {observer : Option Observer} {visits : List (Visit σ Outcome)}
    {outcomes : List Outcome} (audited : Audited observer visits outcomes) {visit : Visit σ Outcome}
    (visited : visit ∈ visits) (intact : ∀ bridge call fault, ¬ visit.Torn observer bridge call fault) :
    visit.results ⊆ outcomes := by
  induction audited with
  | ended => cases visited
  | stopped fault now => cases visited
  | torn now torn =>
      cases List.mem_singleton.mp visited
      exact absurd torn (intact _ _ _)
  | @whole head visits outcomes _ _ ih =>
      rcases List.mem_cons.mp visited with rfl | visited
      · exact List.subset_append_left _ _
      · exact List.Subset.trans (ih visited) (List.subset_append_right _ _)

namespace FlowRun

/-- The world once an outcome is recorded and an observer was told of it. -/
def tell (observer : Option Observer) (outcome : Outcome) (world : World σ) : World σ :=
  match observer with
  | none => world.log (.recorded outcome)
  | some _ => (world.log (.recorded outcome)).log (.notified outcome)

theorem recordAll_cons (observer : Option Observer) (run : FlowRun) (outcome : Outcome)
    (rest : List Outcome) (world : World σ) : recordAll observer run (outcome :: rest) world =
      match objection observer world outcome with
      | some fault => (some fault, (run.begin outcome.node).record outcome, tell observer outcome world)
      | none =>
        recordAll observer ((run.begin outcome.node).record outcome) rest (tell observer outcome world) := by
  have quiet : (world.log (.recorded outcome)).notices = world.notices := by
    simp [World.notices, World.log]
  cases observer with
  | none => rfl
  | some heard =>
      simp only [recordAll, recordFor, objection, Option.bind_some, quiet, tell]
      cases heard world.notices outcome <;> rfl

theorem outcomes_of_recordAll_single {observer : Option Observer} {run run' : FlowRun}
    {outcome : Outcome} {world world' : World σ} {fault? : Option Fault}
    (told : recordAll observer run [outcome] world = (fault?, run', world')) :
    run'.outcomes = run.outcomes ++ [outcome] := by
  rw [recordAll_cons] at told
  split at told <;>
    · cases told
      rfl

end FlowRun

/-- How recording the outcomes of a step ends: with all of them told, or in the middle of a pair. -/
theorem told_visit {observer : Option Observer} {visit : Visit σ Outcome}
    (covers : visit.results.map (·.node) = visit.step.ids) {run run' : FlowRun}
    {fault? : Option Fault} {world' : World σ}
    (told : FlowRun.recordAll observer run visit.results visit.after = (fault?, run', world')) :
    (run'.outcomes = run.outcomes ++ visit.results ∧
        ∀ bridge call fault, ¬ visit.Torn observer bridge call fault) ∨
      ∃ bridge call fault, visit.Torn observer bridge call fault ∧ fault? = some fault ∧
        run'.outcomes = run.outcomes ++ [bridge] := by
  obtain ⟨step, location, before, results, after⟩ := visit
  dsimp only at covers told ⊢
  cases step with
  | single node =>
      obtain ⟨outcome, rfl, _⟩ := List.map_eq_singleton_iff.mp covers
      refine .inl ⟨?_, ?_⟩
      · exact FlowRun.outcomes_of_recordAll_single told
      · rintro bridge call fault ⟨⟨first, second, fused⟩, _, _⟩
        cases fused
  | fused first second =>
      obtain ⟨bridge, rest, rfl, _, others⟩ := List.map_eq_cons_iff.mp covers
      obtain ⟨call, rfl, _⟩ := List.map_eq_singleton_iff.mp others
      rw [FlowRun.recordAll_cons] at told
      cases objects : FlowRun.objection observer after bridge with
      | some fault =>
          rw [objects] at told
          cases told
          exact .inr ⟨bridge, call, fault, ⟨⟨first, second, rfl⟩, rfl, objects⟩, rfl, rfl⟩
      | none =>
          rw [objects] at told
          refine .inl ⟨?_, ?_⟩
          · exact (FlowRun.outcomes_of_recordAll_single told).trans (List.append_assoc _ _ _)
          · rintro bridge' call' fault ⟨_, same, objects'⟩
            cases same
            rw [objects] at objects'
            cases objects'

namespace Engine

variable (engine : Engine σ)

theorem carries_of_taken {visit : Visit σ Outcome} (isSound : visit.step.IsSound)
    (taken : visit = Visit.of engine.performStepSafely visit.step visit.location visit.before) :
    visit.Carries engine := by
  intro call member
  have sent := engine.sent_of_performed isSound taken
  rw [sent] at member
  -- A call is sent only for a request that a live backend is asked for.
  unfold callsIn at sent member
  cases live : (engine.probe visit.before).1 with
  | false => simp [live] at member
  | true =>
      cases asks : visit.step.request? engine.vaults visit.location with
      | none => simp [asks, live, requestedBy] at member
      | some request =>
          simp only [live, reduceIte, asks, requestedBy] at sent member
          have written := eq_singleton_of_mem_requested member
          obtain ⟨backend, connected⟩ := engine.connected_of_live live
          have performed := performStepSafely_of_live isSound asks live
          have inquiry := engine.inquiry connected .perform request (engine.probe visit.before).2
          generalize (engine.inquire .perform request).runIn (engine.probe visit.before).2 = inquired
            at performed inquiry
          cases inquiry with
          | unwritten fault unwritten =>
              rw [unwritten] at written
              cases written
          | answered call' written' =>
              rw [written] at written' sent
              cases written'
              refine ⟨backend, connected, sent, ?_⟩
              rw [taken]
              simp only [Visit.of, performed]

theorem audited_performVisits (delay : Int) (observer : Option Observer) (fuel : Nat) (first : Bool)
    {plan : Plan} (location : Location) (run : FlowRun) (world : World σ)
    (ready : Plan.Ready plan.rest plan.states) :
    ∃ outcomes,
      (engine.performVisits delay observer fuel first plan location run world).2.1.outcomes =
        run.outcomes ++ outcomes ∧
      Audited observer (engine.performVisits delay observer fuel first plan location run world).1
        outcomes := by
  induction fuel generalizing first plan location run world with
  | zero => exact ⟨[], (List.append_nil _).symm, .ended⟩
  | succ fuel ih =>
      rcases Plan.next_of_ready (engine.probe world).1 ready with
        ⟨after, exhausted, _⟩ | ⟨step, handed, done, steps⟩
      · simp only [performVisits, exhausted]
        exact ⟨[], (List.append_nil _).symm, .ended⟩
      · rw [engine.performVisits_of_steps steps]
        have covers : (Visit.of engine.performStepSafely step location
            (engine.opened delay first step world)).results.map (·.node) = step.ids :=
          (engine.shared_performStepSafely steps.issues.isSound _ _).nodes
        rcases answer : engine.recordedStep delay observer first step location run world with
          ⟨fault?, run', world'⟩
        have recorded := told_visit covers answer
        rcases recorded with ⟨outcomes_eq, intact⟩ | ⟨bridge, call, fault, torn, rfl, outcomes_eq⟩
        · cases fault? with
          | some fault =>
              refine ⟨_ ++ [FlowRun.faultOutcome fault world'.clock], ?_,
                .whole intact (.stopped fault world'.clock)⟩
              exact (congrArg (· ++ _) outcomes_eq).trans (List.append_assoc _ _ _)
          | none =>
              dsimp only
              split
              · obtain ⟨outcomes, later, audited⟩ := ih false (location.after step.first) run' world'
                  steps.ready
                refine ⟨_ ++ outcomes, ?_, .whole intact audited⟩
                rw [later, outcomes_eq]
                exact List.append_assoc _ _ _
              · refine ⟨_ ++ [], ?_, .whole intact .ended⟩
                rw [List.append_nil]
                exact outcomes_eq
        · refine ⟨[bridge, FlowRun.faultOutcome fault world'.clock], ?_, .torn world'.clock torn⟩
          exact (congrArg (· ++ _) outcomes_eq).trans (List.append_assoc _ _ _)

/-- What a run owes to those who look into what it has performed. -/
structure Keeps (observer : Option Observer) (visits : List (Visit σ Outcome)) (world : World σ)
    (result : FlowRun × World σ) : Prop where
  accounts : engine.Accounts visits world result
  carries : ∀ visit ∈ visits, visit.Carries engine
  covers : ∀ visit ∈ visits, visit.results.map (·.node) = visit.step.ids
  audited : Audited observer visits result.1.outcomes
  kept : ∀ visit ∈ visits, (∀ bridge call fault, ¬ visit.Torn observer bridge call fault) →
    visit.results ⊆ result.1.outcomes

theorem audited_performFlow (delay : Int) (observer : Option Observer) (nodes : List Node)
    (edges : List Edge) (world : World σ) :
    Audited observer (engine.performFlowVisits delay observer nodes edges world).1
      (engine.performFlow delay observer nodes edges world).1.outcomes := by
  rw [← engine.performFlowVisits_snd]
  cases runnable : Graph.requireRunnable nodes with
  | error cause =>
      simp only [performFlowVisits, runnable]
      exact .stopped _ _
  | ok found =>
      obtain ⟨outcomes, told, audited⟩ := engine.audited_performVisits delay observer
        ((Graph.order nodes edges).length + 1) true (.ofStart found.2) (FlowRun.start world.clock)
        world (Plan.ready_of_runnable runnable edges)
      simp only [performFlowVisits, runnable, told]
      exact audited

/-- All that was performed is on record with what the backend has replied, unless an observer stops
the run between the halves of a pair. -/
theorem performFlow_keeps (delay : Int) (observer : Option Observer) (nodes : List Node)
    (edges : List Edge) (world : World σ) :
    (engine.performFlowVisits delay observer nodes edges world).2 =
        engine.performFlow delay observer nodes edges world ∧
      engine.Keeps observer (engine.performFlowVisits delay observer nodes edges world).1 world
        (engine.performFlow delay observer nodes edges world) := by
  have accounts := engine.accounts_performFlow delay observer nodes edges world
  have audited := engine.audited_performFlow delay observer nodes edges world
  refine ⟨engine.performFlowVisits_snd _ _ _ _ _, accounts, fun visit member => ?_,
    fun visit member => ?_, audited, fun visit member intact => audited.subset member intact⟩
  · exact engine.carries_of_taken (accounts.taken visit member).1 (accounts.taken visit member).2
  · rw [(accounts.taken visit member).2]
    exact (engine.shared_performStepSafely (accounts.taken visit member).1 _ _).nodes

/-- An observer that cannot bear to be told of one node. -/
def objector (node : String) : Observer := fun _ outcome =>
  if outcome.node = node then some (.raised .runtime "boom") else none

/-- A bridge and a contract call that were performed in one, of which only the bridge is on record. -/
theorem performFlow_torn :
    ((Sample.engine.performFlowVisits 0 (some (objector "b")) Sample.nodes Sample.edges
        (.fresh 0 ())).1.map fun visit => (visit.step.ids, visit.sent.length,
          visit.results.map fun outcome => (outcome.node, outcome.success))) =
      [(["b", "c"], 1, [("b", true), ("c", true)])] ∧
    (Sample.engine.performFlow 0 (some (objector "b")) Sample.nodes Sample.edges
        (.fresh 0 ())).1.outcomes.map (·.node) = ["b", "error"] := by
  decide +kernel

end Engine

end ChainFlow
