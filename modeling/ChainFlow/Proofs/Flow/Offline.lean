import ChainFlow.Proofs.Flow.Fallback
import ChainFlow.Proofs.World.Sends
import Mathlib.Data.List.Infix

/-!
# Falling back and being offline

A backend that stays live but has no quote for anything leaves every quote to the local estimate. So a
dry run with it comes to what one without a backend comes to, if both draw the same numbers
(`quoteFlow_offline`): they differ in that a bridge and the contract call behind it are one step in the
first and two in the second, which can only be told apart where the amount of the bridge is refused.

`Act.Mirrors` says that two computations come to the same in worlds that are `Abreast`, that is, in
which as many numbers have been drawn; it is closed under the ways in which computations are put
together.
-/

namespace ChainFlow

variable {σ : Type}

/-- A backend that is live, stays so whatever it is asked for quotes, and answers none of these
calls. -/
structure Backend.Quoteless (backend : Backend σ) (start : σ) : Prop where
  live : ∀ state, backend.Reaches .quote start state → (backend.isLive state).1 = true
  faulty : ∀ state, backend.Reaches .quote start state → ∀ operation payload,
    ∃ fault, (backend.answer ⟨.on .quote operation, payload⟩ state).1.answer = .error fault

/-- Two worlds in which as many numbers have been drawn, the first with its backend in one of some
states. -/
structure Abreast (states : σ → Prop) (world other : World σ) : Prop where
  here : states world.backend
  drawn_eq : world.drawn = other.drawn

namespace Act

variable {α β : Type} {states : σ → Prop}

/-! ## Computations that come to the same -/

/-- Two computations that come to the same in worlds that are abreast, and leave them so. -/
def Mirrors (states : σ → Prop) (act other : Act σ α) : Prop :=
  ∀ world away, Abreast states world away →
    (act.runIn world).1 = (other.runIn away).1 ∧
      Abreast states (act.runIn world).2 (other.runIn away).2

theorem mirrors_pure (value : α) : Mirrors states (pure value : Act σ α) (pure value) :=
  fun _ _ abreast => ⟨rfl, abreast⟩

theorem mirrors_throw (fault : Fault) : Mirrors states (throw fault : Act σ α) (throw fault) :=
  fun _ _ abreast => ⟨rfl, abreast⟩

theorem mirrors_ofExcept (result : Except Fault α) :
    Mirrors states (ofExcept result : Act σ α) (ofExcept result) := by
  intro world away abreast
  rw [runIn_ofExcept, runIn_ofExcept]
  exact ⟨rfl, abreast⟩

theorem mirrors_bind {act other : Act σ α} {next then_ : α → Act σ β}
    (first : Mirrors states act other) (second : ∀ value, Mirrors states (next value) (then_ value)) :
    Mirrors states (act >>= next) (other >>= then_) := by
  intro world away abreast
  obtain ⟨same, still⟩ := first world away abreast
  rcases ran : act.runIn world with ⟨fault | value, after⟩ <;>
    rcases ran' : other.runIn away with ⟨fault' | value', after'⟩ <;> rw [ran, ran'] at same still <;>
    cases same
  · rw [runIn_bind_error ran, runIn_bind_error ran']
    exact ⟨rfl, still⟩
  · rw [runIn_bind_ok ran, runIn_bind_ok ran']
    exact second value after after' still

theorem Mirrors.succeed {act other : Act σ α} (mirrors : Mirrors states act other)
    (succeeds : Succeeds act) {world away : World σ} (abreast : Abreast states world away) :
    ∃ value after elsewhere, act.runIn world = (.ok value, after) ∧
      other.runIn away = (.ok value, elsewhere) ∧ Abreast states after elsewhere := by
  obtain ⟨same, still⟩ := mirrors world away abreast
  obtain ⟨value, done⟩ := succeeds world
  refine ⟨value, _, _, Prod.ext done rfl, Prod.ext ?_ rfl, still⟩
  rw [← same, done]

/-- A computation that comes to a fault and draws nothing. -/
def Fails (states : σ → Prop) (act : Act σ α) : Prop :=
  ∀ world, states world.backend → ∃ fault after, act.runIn world = (.error fault, after) ∧
    states after.backend ∧ after.drawn = world.drawn

theorem fails_bind {act : Act σ α} (fails : Fails states act) (next : α → Act σ β) :
    Fails states (act >>= next) := by
  intro world here
  obtain ⟨fault, after, ran, still⟩ := fails world here
  exact ⟨fault, after, runIn_bind_error ran next, still⟩

end Act

namespace Engine

open Act

/-- The engine without its backend. -/
def offline (engine : Engine σ) : Engine σ := { engine with backend := none }

variable (engine : Engine σ) {states : σ → Prop}

/-! ## Local estimates -/

theorem mirrors_drawNext : Mirrors states engine.drawNext engine.offline.drawNext := by
  rintro world away ⟨here, drawn_eq⟩
  refine ⟨?_, here, congrArg (· + 1) drawn_eq⟩
  exact congrArg (fun index => Except.ok (engine.draw index)) drawn_eq

theorem mirrors_seconds (range : Range) :
    Mirrors states (engine.seconds range) (engine.offline.seconds range) :=
  mirrors_bind engine.mirrors_drawNext fun _ => mirrors_pure _

theorem mirrors_localBridge (id : String) (bridge : Bridge) (location : Location) :
    Mirrors states (engine.localBridge id bridge location)
      (engine.offline.localBridge id bridge location) := by
  have estimate : Mirrors states (engine.estimateBridge (.str bridge.amount))
      (engine.offline.estimateBridge (.str bridge.amount)) :=
    mirrors_bind (mirrors_ofExcept _) fun _ =>
      mirrors_bind (engine.mirrors_seconds _) fun _ => mirrors_pure _
  exact mirrors_bind estimate fun _ => mirrors_pure _

theorem mirrors_localTransfer (id : String) (location : Location) :
    Mirrors states (engine.localTransfer id location) (engine.offline.localTransfer id location) := by
  have estimate : Mirrors states engine.estimateTransfer engine.offline.estimateTransfer :=
    mirrors_bind engine.mirrors_drawNext fun _ => mirrors_bind (mirrors_ofExcept _) fun _ =>
      mirrors_bind (engine.mirrors_seconds _) fun _ => mirrors_pure _
  exact mirrors_bind estimate fun _ => mirrors_pure _

theorem mirrors_localCall (id : String) (call : ContractCall) (location : Location) :
    Mirrors states (engine.localCall id call location)
      (engine.offline.localCall id call location) := by
  have estimate : Mirrors states (engine.estimateCall call.action)
      (engine.offline.estimateCall call.action) := by
    unfold estimateCall
    split
    · exact mirrors_throw _
    · exact mirrors_bind engine.mirrors_drawNext fun _ => mirrors_bind (mirrors_ofExcept _) fun _ =>
        mirrors_bind (engine.mirrors_seconds _) fun _ => mirrors_pure _
  exact mirrors_bind estimate fun _ => mirrors_pure _

theorem quoteStepSafely_eq (step : FlowStep) (location : Location) (world : World σ) :
    engine.quoteStepSafely step location world =
      (match ((engine.quoteStep step location).runIn world).1 with
        | .ok quotes => quotes
        | .error fault => step.ids.map fun id => .failed id (fault.messageOr "Simulation failed"),
        ((engine.quoteStep step location).runIn world).2) := by
  unfold quoteStepSafely
  rcases (engine.quoteStep step location).runIn world with ⟨fault | quotes, after⟩ <;> rfl

/-! ## Questions to a backend without quotes -/

theorem runIn_preferRemote_offline {α : Type} (remote fallback : Act σ α) (world : World σ) :
    (engine.offline.preferRemote remote fallback).runIn world = fallback.runIn world := by
  unfold preferRemote
  rw [runIn_isLive_bind]
  rfl

theorem runIn_quoteNode_bridge {node : Node} {bridge : Bridge} (isBridge : node.bridge? = some bridge)
    {location : Location} {world after : World σ} {quote : Quote}
    (ran : (engine.offline.localBridge node.id bridge location).runIn world = (.ok quote, after)) :
    (engine.offline.quoteNode node location).runIn world = (.ok [quote], after) := by
  obtain ⟨estimate, role⟩ := role_of_bridge? isBridge
  have quoted : (engine.offline.quoteBridge node.id bridge location).runIn world = (.ok quote, after) :=
    (engine.runIn_preferRemote_offline _ _ world).trans ran
  simp only [quoteNode, role]
  exact runIn_bind_ok quoted _

theorem runIn_quoteNode_call {node : Node} {call : ContractCall} (isCall : node.call? = some call)
    (supported : call.action ≠ .swap) {location : Location} {world after : World σ} {quote : Quote}
    (ran : (engine.offline.localCall node.id call location).runIn world = (.ok quote, after)) :
    (engine.offline.quoteNode node location).runIn world = (.ok [quote], after) := by
  obtain ⟨estimate, role⟩ := role_of_call? isCall
  have quoted : (engine.offline.quoteCall node.id call location).runIn world = (.ok quote, after) := by
    unfold quoteCall requireSupported
    rw [if_neg supported]
    exact (runIn_bind_ok (rfl : (pure () : Act σ Unit).runIn world = (.ok (), world)) _).trans
      ((engine.runIn_preferRemote_offline _ _ world).trans ran)
  simp only [quoteNode, role]
  exact runIn_bind_ok quoted _

section

variable {backend : Backend σ} {start : σ} (connected : engine.backend = some backend)
  (quoteless : backend.Quoteless start)

include connected quoteless

theorem probe_quoteless {world : World σ} (here : backend.Reaches .quote start world.backend) :
    ∃ after, engine.probe world = (true, after) ∧ backend.Reaches .quote start after.backend ∧
      after.drawn = world.drawn := by
  refine ⟨{ world with backend := (backend.isLive world.backend).2 }, ?_, .probed here, rfl⟩
  simp only [probe, connected, quoteless.live _ here]

theorem fails_askAnswer (request : Except Fault Request) :
    Fails (backend.Reaches .quote start) (engine.askAnswer request) := by
  intro world here
  have inquiry := engine.inquiry connected .quote request world
  change engine.Inquiry backend .quote request world ((engine.askAnswer request).runIn world) at inquiry
  generalize (engine.askAnswer request).runIn world = result at inquiry
  cases inquiry with
  | unwritten fault _ => exact ⟨fault, world, rfl, here, rfl⟩
  | answered call written =>
      obtain ⟨own, payload, _, _, rfl⟩ := requested_eq_singleton written
      obtain ⟨fault, refused⟩ := quoteless.faulty _ here own.operation payload
      refine ⟨fault, answeredBy backend ⟨.on .quote own.operation, payload⟩ world, ?_,
        .answered own.operation payload here, rfl⟩
      rw [refused]

theorem runIn_preferRemote_of_fails {α : Type} {remote : Act σ α} (fallback : Act σ α)
    (fails : Fails (backend.Reaches .quote start) remote) {world : World σ}
    (here : backend.Reaches .quote start world.backend) :
    ∃ after, (engine.preferRemote remote fallback).runIn world = fallback.runIn after ∧
      backend.Reaches .quote start after.backend ∧ after.drawn = world.drawn := by
  obtain ⟨probed, live, there, same⟩ := engine.probe_quoteless connected quoteless here
  obtain ⟨fault, after, ran, still, drawn⟩ := fails probed there
  refine ⟨after, ?_, still, drawn.trans same⟩
  have attempted : (attempt remote).runIn probed = (.ok (.error fault), after) := by
    rw [runIn_attempt, ran]
  unfold preferRemote
  rw [runIn_isLive_bind, live]
  simp only [reduceIte]
  rw [runIn_bind_ok attempted]

theorem mirrors_preferRemote {α : Type} {remote fallback other away : Act σ α}
    (fails : Fails (backend.Reaches .quote start) remote)
    (same : Mirrors (backend.Reaches .quote start) fallback away) :
    Mirrors (backend.Reaches .quote start) (engine.preferRemote remote fallback)
      (engine.offline.preferRemote other away) := by
  rintro world elsewhere ⟨here, drawn_eq⟩
  obtain ⟨after, ran, still, drawn⟩ :=
    engine.runIn_preferRemote_of_fails connected quoteless fallback fails here
  rw [ran, runIn_preferRemote_offline]
  exact same after elsewhere ⟨still, drawn.trans drawn_eq⟩

/-! ## Steps -/

theorem mirrors_quoteNode (node : Node) (location : Location) :
    Mirrors (backend.Reaches .quote start) (engine.quoteNode node location)
      (engine.offline.quoteNode node location) := by
  have fails := engine.fails_askAnswer connected quoteless
  unfold quoteNode
  split
  · refine mirrors_bind (engine.mirrors_preferRemote connected quoteless ?_
      (engine.mirrors_localBridge _ _ _)) fun _ => mirrors_pure _
    exact fails_bind (fails_bind (fails _) _) _
  · refine mirrors_bind (engine.mirrors_preferRemote connected quoteless ?_
      (engine.mirrors_localTransfer _ _)) fun _ => mirrors_pure _
    exact fails_bind (fails_bind (fails _) _) _
  · rename_i call _ _
    have supports : Mirrors (backend.Reaches .quote start) (requireSupported call.action : Act σ Unit)
        (requireSupported call.action) := by
      unfold requireSupported
      split
      · exact mirrors_throw _
      · exact mirrors_pure _
    refine mirrors_bind (mirrors_bind supports fun _ => engine.mirrors_preferRemote connected quoteless
      ?_ (engine.mirrors_localCall _ _ _)) fun _ => mirrors_pure _
    exact fails_bind (fails _) _
  · exact mirrors_pure _

theorem mirrors_quotedStep (node : Node) (location : Location) {world away : World σ}
    (abreast : Abreast (backend.Reaches .quote start) world away) :
    (engine.quotedStep (.single node) location world).1 =
        (engine.offline.quotedStep (.single node) location away).1 ∧
      Abreast (backend.Reaches .quote start) (engine.quotedStep (.single node) location world).2
        (engine.offline.quotedStep (.single node) location away).2 := by
  obtain ⟨probed, live, there, drawn⟩ := engine.probe_quoteless connected quoteless abreast.here
  have opened : Abreast (backend.Reaches .quote start)
      (probed.log (.began (FlowStep.single node).ids)) (away.log (.began (FlowStep.single node).ids)) :=
    ⟨there, drawn.trans abreast.drawn_eq⟩
  obtain ⟨same, still⟩ := engine.mirrors_quoteNode connected quoteless node location _ _ opened
  have offline : engine.offline.probe away = (false, away) := rfl
  simp only [quotedStep, live, offline, quoteStepSafely_eq, quoteStep, same]
  exact ⟨trivial, still⟩

theorem runIn_quoteFused (bridgeId : String) (bridge : Bridge) (callId : String) {call : ContractCall}
    (supported : call.action ≠ .swap) (location : Location) {world : World σ}
    (here : backend.Reaches .quote start world.backend) :
    ∃ after, (engine.quoteFused bridgeId bridge callId call location).runIn world =
        Act.runIn (do
          let bridgeQuote ← engine.localBridge bridgeId bridge location
          return (bridgeQuote, ← engine.localCall callId call (location.onChain bridge.toChain))) after ∧
      backend.Reaches .quote start after.backend ∧ after.drawn = world.drawn := by
  have fails : Fails (backend.Reaches .quote start)
      (engine.remoteFused bridgeId bridge callId call location) :=
    fails_bind (fails_bind (engine.fails_askAnswer connected quoteless _) _) _
  unfold quoteFused requireSupported
  rw [if_neg supported]
  exact engine.runIn_preferRemote_of_fails connected quoteless _ fails here

/-- A bridge that is accepted and the contract call behind it have the quotes that each has alone. -/
theorem quotedStep_fused (fractions : ∀ index, (engine.draw index).IsFraction) {first second : Node}
    {bridge : Bridge} {call : ContractCall} (isBridge : first.bridge? = some bridge)
    (isCall : second.call? = some call) (accepted : engine.Accepts bridge)
    (supported : call.action ≠ .swap) (location : Location) {world away : World σ}
    (abreast : Abreast (backend.Reaches .quote start) world away) :
    let alone := engine.offline.quotedStep (.single first) location away
    let behind := engine.offline.quotedStep (.single second) (location.after first) alone.2
    (engine.quotedStep (.fused first second) location world).1 = alone.1 ++ behind.1 ∧
      Abreast (backend.Reaches .quote start)
        (engine.quotedStep (.fused first second) location world).2 behind.2 := by
  obtain ⟨probed, live, there, drawn⟩ := engine.probe_quoteless connected quoteless abreast.here
  have begun : backend.Reaches .quote start
      (probed.log (.began (FlowStep.fused first second).ids)).backend := there
  obtain ⟨after, fallback, still, same⟩ := engine.runIn_quoteFused connected quoteless first.id bridge
    second.id supported location begun
  -- From here on both do the same, but that the one without a backend begins another step in between.
  have opened : Abreast (backend.Reaches .quote start) after
      (away.log (.began (FlowStep.single first).ids)) :=
    ⟨still, same.trans (drawn.trans abreast.drawn_eq)⟩
  obtain ⟨bridgeQuote, crossed, crossed', paid, paid', ⟨there', level⟩⟩ :=
    (engine.mirrors_localBridge first.id bridge location).succeed
      (engine.succeeds_localBridge first.id location accepted) opened
  have between : Abreast (backend.Reaches .quote start) crossed
      (crossed'.log (.began (FlowStep.single second).ids)) := ⟨there', level⟩
  obtain ⟨callQuote, final, final', called, called', done⟩ :=
    (engine.mirrors_localCall second.id call (location.onChain bridge.toChain)).succeed
      (engine.succeeds_localCall fractions second.id _ supported) between
  have fused : (engine.quoteStep (.fused first second) location).runIn
      (probed.log (.began (FlowStep.fused first second).ids)) =
        (.ok [bridgeQuote, callQuote], final) := by
    rw [runIn_bind_ok paid, runIn_bind_ok called] at fallback
    simp only [quoteStep, isBridge, isCall]
    exact runIn_bind_ok fallback _
  have alone : (engine.offline.quoteStep (.single first) location).runIn
      (away.log (.began (FlowStep.single first).ids)) = (.ok [bridgeQuote], crossed') :=
    engine.runIn_quoteNode_bridge isBridge paid'
  have behind : (engine.offline.quoteStep (.single second) (location.onChain bridge.toChain)).runIn
      (crossed'.log (.began (FlowStep.single second).ids)) = (.ok [callQuote], final') :=
    engine.runIn_quoteNode_call isCall supported called'
  have offline : ∀ world, engine.offline.probe world = (false, world) := fun _ => rfl
  have moved : location.after first = location.onChain bridge.toChain := by
    simp only [Location.after, isBridge]
  simp only [quotedStep, live, offline, quoteStepSafely_eq, fused, moved, alone, behind]
  exact ⟨rfl, done⟩

end

/-! ## Flows -/

theorem addAll_append_eq_ok {tally total : Tally} {quotes more : List Quote}
    (added : addAll tally (quotes ++ more) = (.ok (), total)) :
    ∃ between, addAll tally quotes = (.ok (), between) ∧ addAll between more = (.ok (), total) := by
  induction quotes generalizing tally with
  | nil => exact ⟨tally, rfl, added⟩
  | cons quote quotes ih =>
      simp only [List.cons_append, addAll] at added ⊢
      rcases first : tally.add quote with ⟨fault | _, next⟩
      · rw [first] at added
        cases added
      · rw [first] at added
        exact ih added

/-- Whether each bridge that may be fused with the contract call behind it is accepted. -/
def FusesAccepted (edges : List Edge) (order : List Node) : Prop :=
  ∀ first second bridge, [first, second] <:+: order → canFuse edges first second = true →
    first.bridge? = some bridge → engine.Accepts bridge

variable {engine}

/-- What is accepted in some nodes is so in those that a step leaves. -/
theorem FusesAccepted.later {edges : List Edge} {mayFuse : Bool} {rest later : List Node}
    {step : FlowStep} (fuses : engine.FusesAccepted edges rest)
    (issues : Plan.Issues edges mayFuse rest step later) : engine.FusesAccepted edges later := by
  obtain ⟨passed, split⟩ := issues.split
  have isSuffix : later <:+ rest := ⟨passed ++ step.nodes, split.symm⟩
  exact fun first second bridge adjacent =>
    fuses first second bridge (adjacent.trans isSuffix.isInfix)

theorem FusesAccepted.accepts {edges : List Edge} {mayFuse : Bool} {rest later : List Node}
    {first second : Node} (fuses : engine.FusesAccepted edges rest)
    (issues : Plan.Issues edges mayFuse rest (.fused first second) later) :
    ∃ bridge call, first.bridge? = some bridge ∧ second.call? = some call ∧ engine.Accepts bridge ∧
      call.action ≠ .swap := by
  obtain ⟨_, fusible, _⟩ := (issues.fused_iff second).mp rfl
  obtain ⟨⟨bridge, isBridge⟩, ⟨call, isCall, supported⟩, _⟩ := canFuse_iff.mp fusible
  obtain ⟨passed, split⟩ := issues.split
  have adjacent : [first, second] <:+: rest := ⟨passed, later, split.symm⟩
  exact ⟨bridge, call, isBridge, isCall, fuses first second bridge adjacent fusible isBridge, supported⟩

theorem fusesAccepted_of_estimates (edges : List Edge) {order : List Node}
    (estimates : ∀ node ∈ order, engine.Estimates node) : engine.FusesAccepted edges order :=
  fun first _ bridge adjacent _ isBridge =>
    (estimates first (adjacent.subset List.mem_cons_self)).accepted bridge isBridge

/-- A plan with the nodes of another one, ready to hand them out again. -/
structure Twin (plan apart : Plan) : Prop where
  rest_eq : apart.rest = plan.rest
  edges_eq : apart.edges = plan.edges
  ready : Plan.Ready apart.rest apart.states

section

variable {backend : Backend σ} {start : σ} (connected : engine.backend = some backend)
  (quoteless : backend.Quoteless start) (fractions : ∀ index, (engine.draw index).IsFraction)

include connected quoteless fractions

/-- What a dry run does in one step, one without the backend does in as many steps as it has nodes. -/
theorem quoteSteps_offline_step {plan handed done apart : Plan} {step : FlowStep} {location : Location}
    {tally total : Tally} {mayFuse : Bool} {world away : World σ}
    (steps : plan.Steps mayFuse step handed done) (twin : Twin plan apart)
    (fuses : engine.FusesAccepted plan.edges plan.rest)
    (abreast : Abreast (backend.Reaches .quote start) world away)
    (added : addAll tally (engine.quotedStep step location world).1 = (.ok (), total)) :
    ∃ left after, Twin done left ∧
      Abreast (backend.Reaches .quote start) (engine.quotedStep step location world).2 after ∧
      ∀ fuel, engine.offline.quoteSteps (fuel + step.nodes.length) apart location tally away =
        engine.offline.quoteSteps fuel left (location.after step.first) total after := by
  obtain ⟨rest_eq, edges_eq, ready⟩ := twin
  cases step with
  | single node =>
      have issues := steps.issues.single_apart
      rw [← rest_eq, ← edges_eq] at issues
      obtain ⟨_, left, steps', left_eq⟩ := issues.steps ready
      obtain ⟨same, still⟩ := engine.mirrors_quotedStep connected quoteless node location abreast
      rw [same] at added
      have edges_eq' := steps'.edges_eq.trans (edges_eq.trans steps.edges_eq.symm)
      exact ⟨left, _, ⟨left_eq, edges_eq', steps'.ready⟩, still,
        engine.offline.quoteSteps_of_steps steps' added⟩
  | fused first second =>
      obtain ⟨bridge, call, isBridge, isCall, accepted, supported⟩ := fuses.accepts steps.issues
      obtain ⟨ofFirst, ofSecond⟩ := steps.issues.fused_apart
      rw [← rest_eq, ← edges_eq] at ofFirst
      obtain ⟨_, between, first', between_eq⟩ := ofFirst.steps ready
      rw [← edges_eq, ← first'.edges_eq, ← between_eq] at ofSecond
      obtain ⟨_, left, second', left_eq⟩ := ofSecond.steps first'.ready
      obtain ⟨quotes, still⟩ := engine.quotedStep_fused connected quoteless fractions isBridge isCall
        accepted supported location abreast
      rw [quotes] at added
      obtain ⟨middle, added, added'⟩ := addAll_append_eq_ok added
      have stays : (location.after first).after second = location.after first := by
        simp only [Location.after, bridge?_of_call? isCall]
      have edges_eq' :=
        second'.edges_eq.trans (first'.edges_eq.trans (edges_eq.trans steps.edges_eq.symm))
      refine ⟨left, _, ⟨left_eq, edges_eq', second'.ready⟩, still, fun fuel => ?_⟩
      have goes := (engine.offline.quoteSteps_of_steps first' added (fuel + 1)).trans
        (engine.offline.quoteSteps_of_steps second' added' fuel)
      simp only [FlowStep.first, stays] at goes
      exact goes

/-- A dry run without the backend comes from any point to the tally that the one with it comes to. -/
theorem Survey.offline {plan apart : Plan} {location : Location} {tally : Tally} {world away : World σ}
    {result : Tally × World σ} (survey : engine.Survey plan location tally world result)
    (twin : Twin plan apart) (fuses : engine.FusesAccepted plan.edges plan.rest)
    (abreast : Abreast (backend.Reaches .quote start) world away) {fuel : Nat}
    (enough : plan.rest.length < fuel) :
    (engine.offline.quoteSteps fuel apart location tally away).1 = .ok result.1 := by
  induction survey generalizing apart fuel away with
  | exhausted _ passive =>
      obtain ⟨fuel, rfl⟩ := Nat.exists_eq_add_one_of_ne_zero (Nat.ne_zero_of_lt enough)
      rcases Plan.next_of_ready false twin.ready with ⟨_, exhausted, _⟩ | ⟨step, handed, done, steps⟩
      · have offline : engine.offline.probe away = (false, away) := rfl
        simp only [quoteSteps, offline, exhausted]
      · rw [← twin.rest_eq, steps.issues.actions_eq] at passive
        cases step <;> cases passive
  | @went plan handed done step location tally total world result steps added _ ih =>
      obtain ⟨left, after, twin', abreast', goes⟩ :=
        quoteSteps_offline_step connected quoteless fractions steps twin fuses abreast added
      have later := fuses.later steps.issues
      rw [← steps.edges_eq] at later
      obtain ⟨passed, split⟩ := steps.issues.split
      have length_eq := congrArg List.length split
      rw [List.length_append, List.length_append] at length_eq
      obtain ⟨fuel, rfl⟩ : ∃ extra, fuel = extra + step.nodes.length :=
        ⟨fuel - step.nodes.length, by omega⟩
      rw [goes]
      exact ih twin' later abreast' (by omega)

end

theorem quoteless_failing : Sample.failing.Quoteless () :=
  ⟨fun _ _ => rfl, fun _ _ _ _ => ⟨_, rfl⟩⟩

end Engine

end ChainFlow
