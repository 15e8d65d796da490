import ChainFlow.Proofs.Flow.Agreement
import ChainFlow.Proofs.Flow.Offline
import ChainFlow.Proofs.Flow.Places
import ChainFlow.Proofs.World.Act

/-!
# Dry runs that can be repeated

The numbers that estimates draw come into a quote only where the backend leaves something open. With a
backend that stays live and states a time in every answer, a dry run that fuses nothing comes to the
same whatever numbers it draws (`quoteFlow_drawing`). It does draw: the quote of a contract call begins
as a local estimate, all of whose numbers are then replaced by those of the answer.
-/

namespace ChainFlow

variable {σ : Type}

/-- Fields that state a time: a finite number that is not negative. -/
inductive Fee.StatesTime (fields : Fields) : Prop
  | whole {seconds : Int} : Fields.get? fields "estimatedTime" = some (.int seconds) → 0 ≤ seconds →
      StatesTime fields
  | real {seconds : Binary64} : Fields.get? fields "estimatedTime" = some (.float seconds) →
      seconds.isFinite = true → seconds.isNonnegative = true → StatesTime fields

theorem Fee.StatesTime.seconds {fields : Fields} (states : StatesTime fields) :
    ∃ seconds, seconds? fields = .ok (some seconds) := by
  cases states with
  | @whole seconds stated nonnegative =>
      exact ⟨seconds, by simp only [seconds?, stated, if_pos nonnegative]⟩
  | @real seconds stated isFinite nonnegative =>
      cases seconds with
      | nan => cases isFinite
      | infinite negative => cases isFinite
      | finite negative mantissa exponent =>
          simp only [seconds?, stated, nonnegative, reduceIte, Binary64.truncate?]
          exact ⟨_, rfl⟩

/-- A backend that is live, stays so whatever it is asked for quotes, and states a time in each answer
to these calls. -/
structure Backend.Quotes (backend : Backend σ) (start : σ) : Prop where
  live : backend.LiveThroughout .quote start
  stated : ∀ state, backend.Reaches .quote start state → ∀ operation payload, ∃ fields,
    (backend.answer ⟨.on .quote operation, payload⟩ state).1.answer = .ok (.obj fields) ∧
      Fee.StatesTime fields

namespace Request

/-- A request that can be built and written down. -/
def CanBeAsked (request : Except Fault Request) : Prop :=
  ∃ own user payload, request = .ok own ∧ own.payload user = .ok payload

/-- A request that can be written down for one user can be so for any. -/
theorem payload_of_user {request : Request} {user : String} {payload : Json}
    (written : request.payload user = .ok payload) (other : String) :
    ∃ payload, request.payload other = .ok payload := by
  have ofDeposit {deposit : VaultCall} {symbol amount : String} {payload : Json}
      (written : deposit.payload symbol amount user = .ok payload) :
      ∃ payload, deposit.payload symbol amount other = .ok payload := by
    obtain ⟨arguments, isList, _⟩ := Except.map_eq_ok written
    obtain ⟨units, converted, _⟩ := Except.map_eq_ok isList
    exact ⟨_, by rw [VaultCall.payload, VaultCall.arguments, converted]; rfl⟩
  cases request with
  | bridge _ _ _ => exact ⟨_, rfl⟩
  | transfer _ _ _ _ => exact ⟨_, rfl⟩
  | call _ _ _ => exact ofDeposit written
  | bridgeAndCall _ _ _ _ _ =>
      rw [Request.payload] at written
      obtain ⟨_, deposited, _⟩ := Except.map_eq_ok written
      obtain ⟨deposit, again⟩ := ofDeposit deposited
      exact ⟨_, by rw [Request.payload, again]; rfl⟩

theorem canBeAsked_bridge (bridge : Bridge) (location : Location) :
    CanBeAsked (.ok (bridge.request location)) :=
  ⟨_, "", _, rfl, rfl⟩

theorem canBeAsked_transfer (transfer : Transfer) (location : Location) :
    CanBeAsked (.ok (transfer.request location)) :=
  ⟨_, "", _, rfl, rfl⟩

end Request

/-- The same world twice, its backend in one of some states. -/
structure World.Alike (states : σ → Prop) (world away : World σ) : Prop where
  same : world = away
  here : states world.backend

/-- Two computations that come to the same value in the same world. -/
def Act.Settles {α : Type} (states : σ → Prop) (act other : Act σ α) : Prop :=
  ∀ world, states world.backend → ∃ value after, act.runIn world = (.ok value, after) ∧
    other.runIn world = (.ok value, after) ∧ states after.backend

namespace Engine

open Act

def drawing (engine : Engine σ) (numbers : Nat → Binary64) : Engine σ :=
  { engine with draw := numbers }

/-- Whether every supported contract call among some nodes can be asked for, where those before it
lead. -/
def Asks (engine : Engine σ) (location : Location) (order : List Node) : Prop :=
  ∀ passed node later call, order = passed ++ node :: later → node.call? = some call →
    call.action ≠ .swap → Request.CanBeAsked
      (call.request engine.vaults ⟨location.token, chainAfter location.chain passed⟩)

variable (engine : Engine σ)

/-- How a bridge and a transfer are quoted by the backend: by what the answer states, and a random time
if it states none. -/
def statedQuote (request : Except Fault Request) (range : Range) (quote : Fields → Int → Quote) :
    Act σ Quote := do
  let fields ← engine.askQuote request
  let seconds ← engine.statedSeconds fields range
  return quote fields seconds

/-! ## What is drawn for a contract call -/

theorem runIn_localCall (fractions : ∀ index, (engine.draw index).IsFraction) (id : String)
    {call : ContractCall} (supported : call.action ≠ .swap) (location : Location) (world : World σ) :
    ∃ cost seconds, (engine.localCall id call location).runIn world =
      (.ok (quoted id cost seconds (call.route location)),
        { world with drawn := world.drawn + 2 }) := by
  obtain ⟨base, isBase, small⟩ :
      ∃ base, callBase? call.action = some base ∧ Decimal.IsBelow 20 base := by
    cases action : call.action with
    | swap => exact absurd action supported
    | stake => exact ⟨_, rfl, .digits false (by decide)⟩
    | lend => exact ⟨_, rfl, .digits false (by decide)⟩
  -- The first number is for the cost, the second for the time.
  obtain ⟨cost, written⟩ := spreadCost_of_isFraction small (fractions world.drawn)
  refine ⟨cost, callRange.point (engine.draw (world.drawn + 1)), ?_⟩
  have drawn : engine.drawNext.runIn world =
      (.ok (engine.draw world.drawn), { world with drawn := world.drawn + 1 }) := rfl
  have spread : (Act.ofExcept (ofSignal (spreadCost base (engine.draw world.drawn)))).runIn
      { world with drawn := world.drawn + 1 } = (.ok cost, { world with drawn := world.drawn + 1 }) := by
    rw [runIn_ofExcept, written]
    rfl
  have timed : (engine.seconds callRange).runIn { world with drawn := world.drawn + 1 } =
      (.ok (callRange.point (engine.draw (world.drawn + 1))),
        { world with drawn := world.drawn + 2 }) := rfl
  have estimated : (engine.estimateCall call.action).runIn world =
      (.ok (cost, callRange.point (engine.draw (world.drawn + 1))),
        { world with drawn := world.drawn + 2 }) := by
    simp only [estimateCall, isBase]
    rw [runIn_bind_ok drawn, runIn_bind_ok spread, runIn_bind_ok timed]
    rfl
  exact runIn_bind_ok estimated _

section

variable {backend : Backend σ} {start : σ} (connected : engine.backend = some backend)
  (quotes : backend.Quotes start)

include connected quotes

/-! ## Quotes of the backend -/

theorem runIn_askAnswer {request : Except Fault Request} (asks : Request.CanBeAsked request)
    {world : World σ} (here : backend.Reaches .quote start world.backend) :
    ∃ fields seconds after, (engine.askAnswer request).runIn world = (.ok (.obj fields), after) ∧
      Fee.seconds? fields = .ok (some seconds) ∧ backend.Reaches .quote start after.backend := by
  obtain ⟨own, user, payload, rfl, written⟩ := asks
  obtain ⟨payload, written⟩ := Request.payload_of_user written ((engine.userIn world).getD "")
  obtain ⟨fields, answered, states⟩ := quotes.stated _ here own.operation payload
  obtain ⟨seconds, stated⟩ := states.seconds
  refine ⟨fields, seconds, answeredBy backend ⟨.on .quote own.operation, payload⟩ world, ?_, stated,
    .answered own.operation payload here⟩
  change (engine.inquire .quote (.ok own)).runIn world = _
  rw [runIn_inquire]
  simp only [Except.bind, Request.toCall, written, Except.map]
  rw [engine.runIn_send connected, answered]

variable (numbers others : Nat → Binary64)

theorem settles_statedQuote {request : Except Fault Request} (asks : Request.CanBeAsked request)
    (range : Range) (quote : Fields → Int → Quote) :
    Settles (backend.Reaches .quote start) ((engine.drawing numbers).statedQuote request range quote)
      ((engine.drawing others).statedQuote request range quote) := by
  intro world here
  obtain ⟨fields, seconds, after, asked, isStated, there⟩ :=
    engine.runIn_askAnswer connected quotes asks here
  have same (numbers : Nat → Binary64) :
      ((engine.drawing numbers).statedQuote request range quote).runIn world =
        (.ok (quote fields seconds), after) := by
    have answered : ((engine.drawing numbers).askQuote request).runIn world = (.ok fields, after) :=
      runIn_bind_ok asked _
    have timed : ((engine.drawing numbers).statedSeconds fields range).runIn after =
        (.ok seconds, after) := by
      unfold statedSeconds
      rw [isStated, runIn_bind_ok (runIn_ofExcept _ after)]
      rfl
    unfold statedQuote
    rw [runIn_bind_ok answered, runIn_bind_ok timed]
    rfl
  exact ⟨_, after, same numbers, same others, there⟩

variable {numbers others} (fractions : ∀ index, (numbers index).IsFraction)
  (fractions' : ∀ index, (others index).IsFraction)

include fractions fractions'

theorem settles_remoteCall (id : String) {call : ContractCall} (supported : call.action ≠ .swap)
    {location : Location} (asks : Request.CanBeAsked (call.request engine.vaults location)) :
    Settles (backend.Reaches .quote start) ((engine.drawing numbers).remoteCall id call location)
      ((engine.drawing others).remoteCall id call location) := by
  intro world here
  obtain ⟨fields, seconds, after, asked, stated, there⟩ :=
    engine.runIn_askAnswer connected quotes asks here
  have same (numbers : Nat → Binary64) (fractions : ∀ index, (numbers index).IsFraction) :
      ((engine.drawing numbers).remoteCall id call location).runIn world =
        (.ok (quoted id (Fee.total (.obj fields)) seconds (call.route location)),
          { after with drawn := after.drawn + 2 }) := by
    obtain ⟨cost, time, estimated⟩ :=
      (engine.drawing numbers).runIn_localCall fractions id supported location after
    have answered : ((engine.drawing numbers).askAnswer
        (call.request (engine.drawing numbers).vaults location)).runIn world =
          (.ok (.obj fields), after) := asked
    unfold remoteCall
    rw [runIn_bind_ok answered, runIn_bind_ok estimated]
    have isObject : (Act.ofExcept (quoteFields (.obj fields))).runIn
        { after with drawn := after.drawn + 2 } =
          (.ok fields, { after with drawn := after.drawn + 2 }) := rfl
    rw [runIn_bind_ok isObject, stated, runIn_bind_ok (runIn_ofExcept _ _)]
    rfl
  exact ⟨_, _, same numbers fractions, same others fractions', there⟩

omit fractions fractions'

theorem matches_preferRemote {α : Type} {remote other : Act σ α} (fallback away : Act σ α)
    (settles : Settles (backend.Reaches .quote start) remote other) :
    Matches (World.Alike (backend.Reaches .quote start))
      ((engine.drawing numbers).preferRemote remote fallback)
      ((engine.drawing others).preferRemote other away) := by
  rintro world _ ⟨rfl, here⟩
  obtain ⟨probed, live, there, _⟩ := probe_of_stays (stays_of_live connected quotes.live) here
  obtain ⟨value, after, ran, ran', still⟩ := settles probed there
  -- What the backend says is taken, so the fallback with its draws is never reached.
  have prefers (numbers : Nat → Binary64) {remote : Act σ α} (fallback : Act σ α)
      (ran : remote.runIn probed = (.ok value, after)) :
      ((engine.drawing numbers).preferRemote remote fallback).runIn world = (.ok value, after) := by
    have attempted : (attempt remote).runIn probed = (.ok (.ok value), after) := by
      rw [runIn_attempt, ran]
    have probes : (engine.drawing numbers).probe world = (true, probed) := live
    unfold preferRemote
    rw [runIn_isLive_bind, probes]
    simp only [reduceIte]
    rw [runIn_bind_ok attempted]
    rfl
  rw [prefers numbers fallback ran, prefers others away ran']
  exact ⟨rfl, rfl, still⟩

/-! ## Steps -/

include fractions fractions'

theorem matches_quoteNode {node : Node} {location : Location}
    (asks : ∀ call, node.call? = some call → call.action ≠ .swap →
      Request.CanBeAsked (call.request engine.vaults location)) :
    Matches (World.Alike (backend.Reaches .quote start))
      ((engine.drawing numbers).quoteNode node location)
      ((engine.drawing others).quoteNode node location) := by
  unfold quoteNode
  split
  · exact matches_bind (engine.matches_preferRemote connected quotes _ _
      (engine.settles_statedQuote connected quotes numbers others (Request.canBeAsked_bridge _ _)
        liveBridgeRange _))
      fun _ => matches_pure _
  · exact matches_bind (engine.matches_preferRemote connected quotes _ _
      (engine.settles_statedQuote connected quotes numbers others (Request.canBeAsked_transfer _ _)
        transferRange _))
      fun _ => matches_pure _
  · rename_i call _ role
    refine matches_bind ?_ fun _ => matches_pure _
    unfold quoteCall requireSupported
    split
    · rintro world _ ⟨rfl, here⟩
      have refuses : (throw (.unsupported call.action) : Act σ Unit).runIn world =
        (.error (.unsupported call.action), world) := rfl
      rw [runIn_bind_error refuses, runIn_bind_error refuses]
      exact ⟨rfl, rfl, here⟩
    · rename_i supported
      have isCall : node.call? = some call := by rw [Node.call?, role]
      exact matches_bind (matches_pure _) fun _ => engine.matches_preferRemote connected quotes _ _
        (engine.settles_remoteCall connected quotes fractions fractions' node.id supported
          (asks call isCall supported))
  · exact matches_pure _

theorem quotedStep_drawing {node : Node} {location : Location}
    (asks : ∀ call, node.call? = some call → call.action ≠ .swap →
      Request.CanBeAsked (call.request engine.vaults location))
    {world : World σ} (here : backend.Reaches .quote start world.backend) :
    (engine.drawing numbers).quotedStep (.single node) location world =
      (engine.drawing others).quotedStep (.single node) location world := by
  obtain ⟨probed, live, there, _⟩ := probe_of_stays (stays_of_live connected quotes.live) here
  have begun : World.Alike (backend.Reaches .quote start)
      (probed.log (.began (FlowStep.single node).ids)) (probed.log (.began (FlowStep.single node).ids)) :=
    ⟨rfl, there⟩
  obtain ⟨same, still, _⟩ :=
    engine.matches_quoteNode connected quotes fractions fractions' asks _ _ begun
  have probes (numbers : Nat → Binary64) : (engine.drawing numbers).probe world = (true, probed) := live
  simp only [quotedStep, probes, quoteStepSafely_eq, quoteStep, same, still]

end

/-! ## Flows -/

variable {engine}

theorem Asks.here {edges : List Edge} {mayFuse : Bool} {location : Location} {rest later : List Node}
    {node : Node} (asks : engine.Asks location rest)
    (issues : Plan.Issues edges mayFuse rest (.single node) later) (call : ContractCall)
    (isCall : node.call? = some call) (supported : call.action ≠ .swap) :
    Request.CanBeAsked (call.request engine.vaults location) := by
  obtain ⟨skipped, passive, split⟩ := issues.split_passive
  have able := asks skipped node later call (by rw [split, List.append_assoc]; rfl) isCall supported
  rwa [chainAfter_of_passive passive] at able

theorem Asks.later {edges : List Edge} {mayFuse : Bool} {location : Location} {rest later : List Node}
    {step : FlowStep} (asks : engine.Asks location rest)
    (issues : Plan.Issues edges mayFuse rest step later) :
    engine.Asks (location.after step.first) later := by
  obtain ⟨skipped, passive, split⟩ := issues.split_passive
  rintro passed node final call rfl isCall supported
  have able := asks (skipped ++ step.nodes ++ passed) node final call
    (by rw [split, List.append_assoc (_ ++ _)])
    isCall supported
  rw [chainAfter_append, chainAfter_append, chainAfter_of_passive passive] at able
  rwa [FlowStep.chainAfter_nodes issues.isSound]

theorem Survey.quoteSteps_eq {plan : Plan} {location : Location} {tally : Tally} {world : World σ}
    {result : Tally × World σ} (survey : engine.Survey plan location tally world result) {fuel : Nat}
    (enough : plan.rest.length < fuel) :
    engine.quoteSteps fuel plan location tally world = (.ok result.1, result.2) := by
  induction survey generalizing fuel with
  | exhausted ended _ =>
      obtain ⟨fuel, rfl⟩ := Nat.exists_eq_add_one_of_ne_zero (Nat.ne_zero_of_lt enough)
      simp only [quoteSteps, ended]
  | went steps added _ ih =>
      have shorter := steps.issues.length_lt
      obtain ⟨fuel, rfl⟩ := Nat.exists_eq_add_one_of_ne_zero (Nat.ne_zero_of_lt enough)
      rw [engine.quoteSteps_of_steps steps added]
      exact ih (by omega)

/-- From any point a dry run finds the same with other numbers. -/
theorem Survey.drawing {backend : Backend σ} {start : σ} (connected : engine.backend = some backend)
    (quotes : backend.Quotes start) {numbers others : Nat → Binary64}
    (fractions : ∀ index, (numbers index).IsFraction)
    (fractions' : ∀ index, (others index).IsFraction) {plan : Plan} {location : Location}
    {tally : Tally} {world : World σ} {result : Tally × World σ}
    (survey : (engine.drawing numbers).Survey plan location tally world result)
    (unfused : ∀ step ∈ (plan.drain true).1, ∃ node, step = .single node)
    (asks : engine.Asks location plan.rest)
    (here : backend.Reaches .quote start world.backend) :
    (engine.drawing others).Survey plan location tally world result := by
  have stays : (engine.drawing numbers).Stays .quote (backend.Reaches .quote start) :=
    stays_of_live connected quotes.live
  -- Both runs come to the same world after each step, so the survey of one is a survey of the other.
  induction survey with
  | exhausted ended passive => exact .exhausted ended passive
  | @went plan handed done step location tally total world result steps added _ ih =>
      rw [Plan.drain_of_steps (steps_of_live stays here steps)] at unfused
      obtain ⟨⟨node, rfl⟩, alone⟩ := List.forall_mem_cons.mp unfused
      have there := stays_quotedStep stays (.single node) location here
      have same := engine.quotedStep_drawing connected quotes fractions fractions'
        (asks.here steps.issues) here
      have rest := ih alone (asks.later steps.issues) there
      rw [same] at added rest
      exact .went steps added rest

end Engine

/-- A backend whose quotes differ from answer to answer. -/
def Sample.quoting : Backend Nat where
  isLive state := (true, state)
  user _ := some "0xuser"
  answer _ state := (⟨.ok (.obj [("fees", .obj [("total", .int state)]), ("estimatedTime", .int state)]),
    40⟩, state + 1)

def Sample.quotingEngine : Engine Nat where
  backend := some Sample.quoting
  vaults := Vaults.standard
  bridgeCost := .finite false 25 (-1)
  latency := 0
  explorer := none
  draw _ := .zero false

/-- A drawing in which a transfer stands between the bridge and the contract call. -/
def Sample.spacedNodes : List Node :=
  [start "s" 84532, bridge "b" 11155111 "5", transfer "t" "1" "0xabc", call "c" .stake "2.5"]

def Sample.spacedEdges : List Edge := [edge "s" "b", edge "b" "t", edge "t" "c"]

theorem Sample.asks_spaced :
    Sample.quotingEngine.Asks ⟨.usdc, 84532⟩ (Graph.order Sample.spacedNodes Sample.spacedEdges) := by
  have order : Graph.order Sample.spacedNodes Sample.spacedEdges = Sample.spacedNodes := rfl
  rw [order]
  rintro passed node later call split isCall -
  -- Only the last of the four nodes is a contract call.
  rcases passed with _ | ⟨_, _ | ⟨_, _ | ⟨_, _ | ⟨_, passed⟩⟩⟩⟩
  · cases split
    cases isCall
  · cases split
    cases isCall
  · cases split
    cases isCall
  · cases split
    cases isCall
    exact ⟨_, "", _, rfl, rfl⟩
  · simp [Sample.spacedNodes] at split

theorem Sample.isFraction_half : (Binary64.finite false (2 ^ 52) (-53)).IsFraction :=
  ⟨.finite false (by decide) (by decide) (by decide) (by decide) fun _ => le_rfl, _, _, rfl,
    by decide +kernel⟩

end ChainFlow
