import ChainFlow.Proofs.Flow.Accounts
import ChainFlow.Proofs.Flow.Chains
import ChainFlow.Proofs.Sample

/-!
# No success without a backend's word

A live backend is asked once for each step whose request can be written down, and the outcomes of the
step are what it answers: no hash is made up, and nothing is a success that the backend has not
confirmed. A backend that is not live is asked for nothing at all.
-/

namespace ChainFlow

variable {σ α : Type}

/-- Whether the backend was live when a step was taken. -/
def Visit.live (engine : Engine σ) (visit : Visit σ α) : Bool := (engine.probe visit.before).1

/-- A step whose outcomes are what the backend has answered to the one call that was sent for it. -/
inductive Visit.Honest (engine : Engine σ) (visit : Visit σ Outcome) : Prop
  | unsent : visit.sent = [] → (∀ outcome ∈ visit.results, outcome.success = false) →
      Honest engine visit
  | sent {backend : Backend σ} {call : Call} : engine.backend = some backend → visit.sent = [call] →
      visit.step.Addressed .perform visit.location.chain call →
      visit.step.Settled (backend.answer call (engine.probe visit.before).2.backend).1.answer
        visit.results →
      Honest engine visit

/-- An outcome that the backend has confirmed in its answer to the call of a step. -/
def Visit.Confirms (engine : Engine σ) (visit : Visit σ Outcome) (outcome : Outcome) : Prop :=
  ∃ backend call sides, engine.backend = some backend ∧ visit.sent = [call] ∧
    (backend.answer call (engine.probe visit.before).2.backend).1.answer.toOption.bind
      visit.step.confirmation? = some sides ∧
    (outcome.hash, outcome.url) ∈ sides

theorem Visit.Honest.confirms {engine : Engine σ} {visit : Visit σ Outcome}
    (honest : visit.Honest engine) {outcome : Outcome} (member : outcome ∈ visit.results)
    (success : outcome.success = true) : visit.Confirms engine outcome := by
  cases honest with
  | unsent _ failed =>
      rw [failed outcome member] at success
      cases success
  | @sent backend call connected sent _ settled =>
      obtain ⟨sides, confirmation, among⟩ := settled.confirmed member success
      exact ⟨backend, call, sides, connected, sent, confirmation, among⟩

namespace Engine

variable (engine : Engine σ)

theorem dead_of_absent {visits : List (Visit σ α)} (dead : engine.backend = none ∨
    ∀ visit ∈ visits, visit.live engine = false) : ∀ visit ∈ visits, visit.live engine = false := by
  intro visit member
  rcases dead with absent | dead
  · simp only [Visit.live, probe, absent]
  · exact dead visit member

theorem callsIn_of_dead {purpose : Purpose} {step : FlowStep} {location : Location} {world : World σ}
    (dead : (engine.probe world).1 = false) : engine.callsIn purpose step location world = [] := by
  simp [callsIn, dead]

theorem honest_of_live {visit : Visit σ Outcome} (isSound : visit.step.IsSound)
    (taken : visit = Visit.of engine.performStepSafely visit.step visit.location visit.before)
    (live : visit.live engine = true) :
    visit.Honest engine ∧ visit.after.issued = visit.before.issued := by
  have performs := engine.performs_of_taken isSound taken
  have sent := engine.sent_of_performed isSound taken
  obtain ⟨step, location, before, results, after⟩ := visit
  unfold Visit.live at live
  dsimp only at performs sent live isSound
  simp only [callsIn, live, reduceIte] at sent
  cases performs with
  | unasked unasked failed =>
      rw [unasked] at sent
      exact ⟨.unsent sent failed, rfl⟩
  | stopped dead _ =>
      rw [live] at dead
      cases dead
  | pretended dead _ _ =>
      rw [live] at dead
      cases dead
  | asked asks _ connected inquiry settled =>
      have issued_eq := inquiry.issued_eq.trans (engine.probe_issued before)
      refine ⟨?_, issued_eq⟩
      rw [asks] at sent
      -- A request that cannot be written down is a fault, and a fault confirms nothing.
      cases inquiry with
      | unwritten fault unwritten => exact .unsent (sent.trans unwritten) settled
      | answered call written =>
          have addressed := addressed_of_requested isSound asks written
          exact .sent connected (sent.trans written) addressed settled

/-- What a run owes to its backend. If the backend is live at every step no hash is made up, and the
outcomes of a step are what its own call was answered. If there is none, or it is never live, nothing is
sent. -/
structure HonestRun (visits : List (Visit σ Outcome)) (world : World σ) (result : FlowRun × World σ) :
    Prop where
  accounts : engine.Accounts visits world result
  live : (∀ visit ∈ visits, visit.live engine = true) →
    result.2.issued = world.issued ∧ (∀ visit ∈ visits, visit.Honest engine) ∧
      ∀ outcome ∈ result.1.outcomes, outcome.success = true →
        ∃ visit ∈ visits, outcome ∈ visit.results ∧ visit.Confirms engine outcome
  dead : (engine.backend = none ∨ ∀ visit ∈ visits, visit.live engine = false) →
    result.2.calls = world.calls

structure HonestDryRun (visits : List (Visit σ Quote)) (world : World σ)
    (result : Except Fault FlowQuote × World σ) : Prop where
  inspects : engine.Inspects visits world result
  dead : (engine.backend = none ∨ ∀ visit ∈ visits, visit.live engine = false) →
    result.2.calls = world.calls

/-- Nothing that a run reports as a success is of its own making as long as the backend is live, and
neither a run nor a dry run turns to a backend that is not. -/
theorem performFlow_honest (delay : Int) (observer : Option Observer) (rate : Binary64)
    (nodes : List Node) (edges : List Edge) (world : World σ) :
    ((engine.performFlowVisits delay observer nodes edges world).2 =
        engine.performFlow delay observer nodes edges world ∧
      engine.HonestRun (engine.performFlowVisits delay observer nodes edges world).1 world
        (engine.performFlow delay observer nodes edges world)) ∧
    (engine.quoteFlowVisits rate nodes edges world).2 = engine.quoteFlow rate nodes edges world ∧
      engine.HonestDryRun (engine.quoteFlowVisits rate nodes edges world).1 world
        (engine.quoteFlow rate nodes edges world) := by
  have run := engine.accounts_performFlow delay observer nodes edges world
  have dryRun := engine.inspects_quoteFlow rate nodes edges world
  refine ⟨⟨engine.performFlowVisits_snd _ _ _ _ _, run, fun live => ?_, fun dead => ?_⟩,
    engine.quoteFlowVisits_snd _ _ _ _, dryRun, fun dead => ?_⟩
  · have honest visit member :=
      engine.honest_of_live (run.taken visit member).1 (run.taken visit member).2 (live visit member)
    refine ⟨run.issued_eq fun visit member => (honest visit member).2,
      fun visit member => (honest visit member).1, fun outcome member success => ?_⟩
    rcases run.told outcome member with ⟨visit, visited, among⟩ | ⟨fault, now, rfl⟩
    · exact ⟨visit, visited, among, (honest visit visited).1.confirms among success⟩
    · cases success
  · rw [run.calls_eq, List.flatMap_eq_nil_iff.mpr, List.append_nil]
    intro visit member
    rw [engine.sent_of_performed (run.taken visit member).1 (run.taken visit member).2]
    exact engine.callsIn_of_dead (engine.dead_of_absent dead visit member)
  · rw [dryRun.calls_eq, List.flatMap_eq_nil_iff.mpr, List.append_nil]
    intro visit member
    rw [engine.sent_of_quoted (dryRun.taken visit member).2]
    exact engine.callsIn_of_dead (engine.dead_of_absent dead visit member)

theorem performFlow_honest_sample :
    (Sample.engine.performFlow 0 none Sample.nodes Sample.edges (.fresh 0 ())).2.issued = 0 ∧
    ∀ visit ∈ (Sample.engine.performFlowVisits 0 none Sample.nodes Sample.edges (.fresh 0 ())).1,
      visit.Honest Sample.engine := by
  obtain ⟨⟨_, honest⟩, _⟩ :=
    Sample.engine.performFlow_honest 0 none (.zero false) Sample.nodes Sample.edges (.fresh 0 ())
  obtain ⟨issued_eq, honest, _⟩ := honest.live fun _ _ => rfl
  exact ⟨issued_eq, honest⟩

end Engine

end ChainFlow
