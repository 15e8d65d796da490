import ChainFlow.Proofs.Flow.Calls

/-!
# How a step is settled

`Engine.Performs` says all that performing a step can do. A step that asks for nothing fails at once.
If no backend is live, a node alone is pretended and a fused pair fails. If one is live, a request is
made of it, and what the answer says decides on success, hashes and links: `FlowStep.Settled`.
-/

namespace ChainFlow

variable {σ : Type}

/-- The outcome that a receipt gives to a node. -/
def Receipt.outcome (receipt : Receipt) (id failure : String) (now : Int) : Outcome :=
  if receipt.success then
    ⟨id, true, FusedReceipt.stated receipt.hash, FusedReceipt.stated receipt.url, none, now⟩
  else ⟨id, false, none, none, some ((FusedReceipt.stated receipt.error).getD failure), now⟩

/-- The outcomes that a receipt gives to a bridge and a contract call. -/
def FusedReceipt.outcomes (receipt : FusedReceipt) (bridgeId callId : String) (now : Int) :
    List Outcome :=
  if receipt.success then
    [⟨bridgeId, true, receipt.bridgeSide.1, receipt.bridgeSide.2, none, now⟩,
      ⟨callId, true, receipt.callSide.1, receipt.callSide.2, none, now⟩]
  else
    let error := (stated receipt.error).getD "Bridge and execute failed"
    [⟨bridgeId, false, none, none, some error, now⟩, ⟨callId, false, none, none, some error, now⟩]

/-- The words for a node that a backend reports to have failed without words of its own. -/
def Node.failure (node : Node) : String :=
  match node.role with
  | .action (.bridge _) _ => "Bridge failed"
  | .action (.transfer _) _ => "Transfer failed"
  | .action (.call _) _ => "Execute failed"
  | _ => ""

namespace FlowStep

/-- The hash and the link that an answer gives to each node of a step, if it reports success. -/
def confirmation? (step : FlowStep) (answer : Json) : Option (List (Option String × Option String)) :=
  match step with
  | single _ =>
    match Receipt.read answer with
    | .ok receipt =>
      if receipt.success then
        some [(FusedReceipt.stated receipt.hash, FusedReceipt.stated receipt.url)]
      else none
    | .refused _ => none
  | fused _ _ =>
    match FusedReceipt.read answer with
    | .ok receipt => if receipt.success then some [receipt.bridgeSide, receipt.callSide] else none
    | .refused _ => none

/-- Whether some outcomes are what the backend has replied: successes with the hashes and links of the
answer if it confirms the step, and failures in every other case. -/
def Settled (step : FlowStep) (reply : Except Fault Json) (outcomes : List Outcome) : Prop :=
  match reply.toOption.bind step.confirmation? with
  | some sides => outcomes.map (fun outcome => (outcome.success, outcome.hash, outcome.url)) =
      sides.map (true, ·)
  | none => ∀ outcome ∈ outcomes, outcome.success = false

/-- The outcomes of a step that has come to an end: a fault is a failure of every node. -/
def concluded (step : FlowStep) (now : Int) : Except Fault (List Outcome) → List Outcome
  | .ok outcomes => outcomes
  | .error fault => step.ids.map fun id =>
      ⟨id, false, none, none, some (fault.messageOr FlowRun.faultMessage), now⟩

/-- What a backend's reply makes of the nodes of a step. -/
def received (step : FlowStep) (now : Int) (answer : Json) : Except Fault (List Outcome) :=
  match step with
  | single node =>
    (ofReading Receipt.record (Receipt.read answer)).map fun receipt =>
      [receipt.outcome node.id node.failure now]
  | fused first second =>
    (ofReading FusedReceipt.record (FusedReceipt.read answer)).map fun receipt =>
      receipt.outcomes first.id second.id now

/-- The outcomes of a step for which a backend has replied. -/
def reported (step : FlowStep) (reply : Except Fault Json) (now : Int) : List Outcome :=
  step.concluded now (reply.bind (step.received now))

theorem concluded_error (step : FlowStep) (now : Int) (fault : Fault) :
    ∀ outcome ∈ step.concluded now (.error fault), outcome.success = false := by
  intro outcome member
  obtain ⟨id, _, rfl⟩ := List.mem_map.mp member
  rfl

theorem settled_of_unconfirmed {step : FlowStep} {reply : Except Fault Json} {outcomes : List Outcome}
    (unconfirmed : reply.toOption.bind step.confirmation? = none)
    (failed : ∀ outcome ∈ outcomes, outcome.success = false) : step.Settled reply outcomes := by
  simp only [Settled, unconfirmed]
  exact failed

theorem settled_of_reported {step : FlowStep} {answer : Json} {outcomes : List Outcome} {success : Bool}
    {sides : List (Option String × Option String)}
    (reported : step.confirmation? answer = if success then some sides else none)
    (all : ∀ outcome ∈ outcomes, outcome.success = success)
    (same : success = true → outcomes.map (fun outcome => (outcome.hash, outcome.url)) = sides) :
    step.Settled (.ok answer) outcomes := by
  cases success with
  | false => exact settled_of_unconfirmed reported all
  | true =>
      simp only [Settled, Except.toOption, Option.bind_some, reported, reduceIte, ← same rfl,
        List.map_map]
      exact List.map_congr_left fun outcome member => congrArg (·, outcome.hash, outcome.url)
        (all outcome member)

/-- What a backend's reply makes of a step is settled by it. -/
theorem settled_reported (step : FlowStep) (reply : Except Fault Json) (now : Int) :
    step.Settled reply (step.reported reply now) := by
  cases reply with
  | error fault => exact settled_of_unconfirmed rfl (step.concluded_error now fault)
  | ok answer =>
      cases step with
      | single node =>
          cases reading : Receipt.read answer with
          | refused issues =>
              refine settled_of_unconfirmed ?_ ?_
              · simp only [Except.toOption, Option.bind_some, confirmation?, reading]
              · simp only [reported, Except.bind, received, reading]
                exact concluded_error _ now _
          | ok receipt =>
              refine settled_of_reported (by simp only [confirmation?, reading]; rfl) ?_ ?_
              all_goals
                simp only [reported, Except.bind, received, reading, ofReading, Except.map, concluded,
                  Receipt.outcome]
                cases receipt.success <;> simp
      | fused first second =>
          cases reading : FusedReceipt.read answer with
          | refused issues =>
              refine settled_of_unconfirmed ?_ ?_
              · simp only [Except.toOption, Option.bind_some, confirmation?, reading]
              · simp only [reported, Except.bind, received, reading]
                exact concluded_error _ now _
          | ok receipt =>
              refine settled_of_reported (by simp only [confirmation?, reading]; rfl) ?_ ?_
              all_goals
                simp only [reported, Except.bind, received, reading, ofReading, Except.map, concluded,
                  FusedReceipt.outcomes]
                cases receipt.success <;> simp

/-- A success is one that the answer confirms, with a hash and a link of the answer. -/
theorem Settled.confirmed {step : FlowStep} {reply : Except Fault Json} {outcomes : List Outcome}
    (settled : step.Settled reply outcomes) {outcome : Outcome} (member : outcome ∈ outcomes)
    (success : outcome.success = true) :
    ∃ sides, reply.toOption.bind step.confirmation? = some sides ∧
      (outcome.hash, outcome.url) ∈ sides := by
  unfold Settled at settled
  cases confirmation : reply.toOption.bind step.confirmation? with
  | none =>
      rw [confirmation] at settled
      rw [settled outcome member] at success
      cases success
  | some sides =>
      rw [confirmation] at settled
      have listed : (true, outcome.hash, outcome.url) ∈ sides.map (true, ·) := by
        rw [← settled, ← success]
        exact List.mem_map_of_mem member
      obtain ⟨side, among, same⟩ := List.mem_map.mp listed
      cases same
      exact ⟨sides, rfl, among⟩

end FlowStep

namespace Engine

open Act

variable (engine : Engine σ)

/-- What performing a step can do. -/
inductive Performs (step : FlowStep) (location : Location) (before : World σ) :
    List Outcome × World σ → Prop
  | unasked {outcomes : List Outcome} : step.request? engine.vaults location = none →
      (∀ outcome ∈ outcomes, outcome.success = false) →
      Performs step location before (outcomes, before)
  | stopped {outcomes : List Outcome} : (engine.probe before).1 = false →
      (∀ outcome ∈ outcomes, outcome.success = false) →
      Performs step location before (outcomes, (engine.probe before).2)
  | pretended {id hash : String} {now : Int} {after : World σ} : (engine.probe before).1 = false →
      after.calls = before.calls → after.issued = before.issued + 1 →
      Performs step location before
        ([⟨id, true, some hash, some (ChainId.transactionUrl location.chain hash engine.explorer), none,
          now⟩], after)
  | asked {request : Except Fault Request} {backend : Backend σ} {reply : Except Fault Json}
      {outcomes : List Outcome} {after : World σ} :
      step.request? engine.vaults location = some request → (engine.probe before).1 = true →
      engine.backend = some backend →
      engine.Inquiry backend .perform request (engine.probe before).2 (reply, after) →
      step.Settled reply outcomes → Performs step location before (outcomes, after)

/-! ## Parts of performing -/

/-- A node that the backend performs if it is live. -/
def settle (id failure : String) (request : Except Fault Request) (location : Location) :
    Act σ Outcome := do
  if ← engine.isLive then ofReceipt id (← engine.askReceipt request) failure
  else engine.pretended id location

theorem runIn_pretended (id : String) (location : Location) (world : World σ) :
    ∃ hash after, (engine.pretended id location).runIn world =
        (.ok ⟨id, true, some hash,
          some (ChainId.transactionUrl location.chain hash engine.explorer), none, after.clock⟩, after) ∧
      after.calls = world.calls ∧ after.issued = world.issued + 1 := by
  have waited : ∃ after, (wait (.latency engine.latency) : Act σ Unit).runIn world = (.ok (), after) ∧
      after.calls = world.calls ∧ after.issued = world.issued := by
    unfold wait
    by_cases none : (Pause.latency engine.latency).milliseconds = 0
    · exact ⟨world, by simp only [runIn, if_pos none], rfl, rfl⟩
    · refine ⟨world.pause (.latency engine.latency), by simp only [runIn, if_neg none], ?_, rfl⟩
      exact (Local.calls_eq (.waited world engine.latency)).1
  obtain ⟨after, waits, calls_eq, issued_eq⟩ := waited
  unfold pretended pretend
  rw [bind_assoc, runIn_bind_ok waits]
  refine ⟨_, { after with issued := after.issued + 1 }, rfl, calls_eq, ?_⟩
  rw [← issued_eq]

theorem runIn_ofReceipt (id failure : String) (receipt : Receipt) (world : World σ) :
    (ofReceipt id receipt failure : Act σ Outcome).runIn world =
      (.ok (receipt.outcome id failure world.clock), world) := by
  unfold ofReceipt Receipt.outcome
  cases receipt.success <;> rfl

theorem runIn_return_single (act : Act σ Outcome) (world : World σ) :
    (do return [← act] : Act σ (List Outcome)).runIn world =
      ((act.runIn world).1.map ([·]), (act.runIn world).2) := by
  rcases ran : act.runIn world with ⟨fault | outcome, after⟩
  · rw [runIn_bind_error ran]
    rfl
  · rw [runIn_bind_ok ran]
    rfl

theorem runIn_ofFusedReceipt (bridgeId callId : String) (receipt : FusedReceipt) (world : World σ) :
    (do
        let outcomes ← ofFusedReceipt bridgeId callId receipt
        return [outcomes.1, outcomes.2] : Act σ (List Outcome)).runIn world =
      (.ok (receipt.outcomes bridgeId callId world.clock), world) := by
  unfold ofFusedReceipt FusedReceipt.outcomes
  cases receipt.success <;> rfl

/-! ## Steps -/

variable {engine} {step : FlowStep} {location : Location} {request : Except Fault Request}

theorem performStepSafely_eq {world after : World σ} {result : Except Fault (List Outcome)}
    (ran : (engine.performStep step location).runIn world = (result, after)) :
    engine.performStepSafely step location world = (step.concluded after.clock result, after) := by
  unfold performStepSafely
  rw [ran]
  cases result <;> rfl

theorem performStepSafely_of_inquired {world : World σ} {receive : Json → Act σ (List Outcome)}
    (goes : (engine.performStep step location).runIn world =
      (engine.inquire .perform request >>= receive).runIn (engine.probe world).2)
    (receives : ∀ answer after,
      (receive answer).runIn after = (step.received after.clock answer, after)) :
    engine.performStepSafely step location world =
      let inquired := (engine.inquire .perform request).runIn (engine.probe world).2
      (step.reported inquired.1 inquired.2.clock, inquired.2) := by
  rcases inquired : (engine.inquire .perform request).runIn (engine.probe world).2 with
    ⟨fault | answer, after⟩
  · rw [runIn_bind_error inquired] at goes
    exact performStepSafely_eq goes
  · rw [runIn_bind_ok inquired, receives] at goes
    exact performStepSafely_eq goes

theorem performNode_eq_settle {node : Node}
    (asks : node.request? engine.vaults location = some request) :
    engine.performNode node location = do
      return [← engine.settle node.id node.failure request location] := by
  unfold Node.request? at asks
  unfold performNode Node.failure
  cases role : node.role with
  | start start => simp only [role, reduceCtorEq] at asks
  | finish finish => simp only [role, reduceCtorEq] at asks
  | action work estimate =>
      cases work with
      | bridge bridge =>
          simp only [role, Option.some.injEq] at asks ⊢
          rw [← asks]
          rfl
      | transfer transfer =>
          simp only [role, Option.some.injEq] at asks ⊢
          rw [← asks]
          rfl
      | call call =>
          simp only [role] at asks ⊢
          by_cases swap : call.action = .swap
          · simp only [if_pos swap, reduceCtorEq] at asks
          · rw [if_neg swap, Option.some.injEq] at asks
            simp only [performCall, if_neg swap, settle, ← asks]

theorem performNode_unasked {node : Node} (unasked : node.request? engine.vaults location = none)
    (world : World σ) : ∃ result, (engine.performNode node location).runIn world = (result, world) ∧
      ∀ outcome ∈ (FlowStep.single node).concluded world.clock result, outcome.success = false := by
  unfold Node.request? at unasked
  unfold performNode
  cases role : node.role with
  | start start => exact ⟨_, rfl, List.forall_mem_singleton.mpr rfl⟩
  | finish finish => exact ⟨_, rfl, List.forall_mem_singleton.mpr rfl⟩
  | action work estimate =>
      cases work with
      | bridge bridge => simp only [role, reduceCtorEq] at unasked
      | transfer transfer => simp only [role, reduceCtorEq] at unasked
      | call call =>
          by_cases swap : call.action = .swap
          · refine ⟨_, ?_, FlowStep.concluded_error _ _ (.unsupported call.action)⟩
            simp only [performCall, if_pos swap]
            rfl
          · simp only [role, if_neg swap, reduceCtorEq] at unasked

theorem performStep_fused {first second : Node} {bridge : Bridge} {call : ContractCall}
    (isBridge : first.bridge? = some bridge) (isCall : second.call? = some call)
    (supported : call.action ≠ .swap) (location : Location) (world : World σ) :
    (engine.performStep (.fused first second) location).runIn world =
      (if (engine.probe world).1 then do
          let answer ← engine.inquire .perform (fusedRequest bridge call engine.vaults location)
          let receipt ← Act.ofExcept (ofReading FusedReceipt.record (FusedReceipt.read answer))
          let outcomes ← ofFusedReceipt first.id second.id receipt
          return [outcomes.1, outcomes.2]
        else throw Fault.notConnected).runIn (engine.probe world).2 := by
  simp only [performStep, isBridge, isCall, performFused, if_neg supported, inquire, bind_assoc]
  rw [runIn_isLive_bind]
  cases (engine.probe world).1 with
  | true => simp only [reduceIte, bind_assoc]
  | false => rfl

/-- What a live backend replies to its request is what comes of a step. -/
theorem performStepSafely_of_live (isSound : step.IsSound)
    (asks : step.request? engine.vaults location = some request) {world : World σ}
    (live : (engine.probe world).1 = true) :
    engine.performStepSafely step location world =
      let inquired := (engine.inquire .perform request).runIn (engine.probe world).2
      (step.reported inquired.1 inquired.2.clock, inquired.2) := by
  cases step with
  | single node =>
      have goes : (engine.performStep (.single node) location).runIn world =
          (do
            let answer ← engine.inquire .perform request
            let receipt ← Act.ofExcept (ofReading Receipt.record (Receipt.read answer))
            return [← ofReceipt node.id receipt node.failure]).runIn (engine.probe world).2 := by
        rw [performStep, performNode_eq_settle asks, settle, bind_assoc, runIn_isLive_bind]
        simp only [live, reduceIte, askReceipt, inquire, bind_assoc]
      refine performStepSafely_of_inquired goes fun answer after => ?_
      cases reading : Receipt.read answer with
      | refused issues =>
          simp only [FlowStep.received, reading]
          exact runIn_bind_error (runIn_ofExcept _ after) _
      | ok receipt =>
          simp only [FlowStep.received, reading]
          rw [ofReading, runIn_bind_ok (runIn_ofExcept _ after), runIn_return_single, runIn_ofReceipt]
          rfl
  | fused first second =>
      obtain ⟨bridge, call, isBridge, isCall⟩ := isSound.parts
      by_cases swap : call.action = .swap
      · simp only [FlowStep.request?, isBridge, isCall, if_pos swap, reduceCtorEq] at asks
      · simp only [FlowStep.request?, isBridge, isCall, if_neg swap, Option.some.injEq] at asks
        subst asks
        have goes := engine.performStep_fused isBridge isCall swap location world
        rw [live, if_pos rfl] at goes
        refine performStepSafely_of_inquired goes fun answer after => ?_
        cases reading : FusedReceipt.read answer with
        | refused issues =>
            simp only [FlowStep.received, reading]
            exact runIn_bind_error (runIn_ofExcept _ after) _
        | ok receipt =>
            simp only [FlowStep.received, reading]
            rw [ofReading, runIn_bind_ok (runIn_ofExcept _ after), runIn_ofFusedReceipt]
            rfl

theorem performs_unasked {world : World σ} {result : Except Fault (List Outcome)}
    (unasked : step.request? engine.vaults location = none)
    (ran : (engine.performStep step location).runIn world = (result, world))
    (failed : ∀ outcome ∈ step.concluded world.clock result, outcome.success = false) :
    engine.Performs step location world (engine.performStepSafely step location world) := by
  rw [performStepSafely_eq ran]
  exact .unasked unasked failed

theorem performs_of_live (isSound : step.IsSound)
    (asks : step.request? engine.vaults location = some request) {world : World σ}
    (live : (engine.probe world).1 = true) :
    engine.Performs step location world (engine.performStepSafely step location world) := by
  obtain ⟨backend, connected⟩ := engine.connected_of_live live
  rw [performStepSafely_of_live isSound asks live]
  exact .asked asks live connected (engine.inquiry connected .perform request (engine.probe world).2)
    (step.settled_reported _ _)

theorem performs_of_dead {node : Node} (asks : node.request? engine.vaults location = some request)
    {world : World σ} (dead : (engine.probe world).1 = false) :
    engine.Performs (.single node) location world
      (engine.performStepSafely (.single node) location world) := by
  obtain ⟨hash, after, pretends, calls_eq, issued_eq⟩ :=
    engine.runIn_pretended node.id location (engine.probe world).2
  have goes : (engine.performStep (.single node) location).runIn world =
      ((engine.pretended node.id location).runIn (engine.probe world).2).map
        (Except.map ([·])) id := by
    rw [performStep, performNode_eq_settle asks, runIn_return_single, settle, runIn_isLive_bind, dead]
    rfl
  rw [pretends] at goes
  rw [performStepSafely_eq goes]
  exact .pretended dead (calls_eq.trans (engine.probe_calls world))
    (issued_eq.trans (congrArg (· + 1) (engine.probe_issued world)))

theorem performs_performStepSafely (isSound : step.IsSound) (location : Location) (world : World σ) :
    engine.Performs step location world (engine.performStepSafely step location world) := by
  cases step with
  | single node =>
      cases asks : node.request? engine.vaults location with
      | none =>
          obtain ⟨result, ran, failed⟩ := performNode_unasked asks world
          exact performs_unasked asks ran failed
      | some request =>
          cases live : (engine.probe world).1 with
          | true => exact performs_of_live isSound asks live
          | false => exact performs_of_dead asks live
  | fused first second =>
      obtain ⟨bridge, call, isBridge, isCall⟩ := isSound.parts
      by_cases swap : call.action = .swap
      · refine performs_unasked (by simp only [FlowStep.request?, isBridge, isCall, if_pos swap])
          ?_ (FlowStep.concluded_error _ _ (.unsupported call.action))
        simp only [performStep, isBridge, isCall, performFused, if_pos swap]
        rfl
      · cases live : (engine.probe world).1 with
        | true =>
            have asks : (FlowStep.fused first second).request? engine.vaults location =
                some (fusedRequest bridge call engine.vaults location) := by
              simp only [FlowStep.request?, isBridge, isCall, if_neg swap]
            exact performs_of_live isSound asks live
        | false =>
            have goes := engine.performStep_fused isBridge isCall swap location world
            rw [live, if_neg Bool.false_ne_true] at goes
            rw [performStepSafely_eq goes]
            exact .stopped live (FlowStep.concluded_error _ _ _)

/-! ## Calls -/

theorem Performs.calls_eq {before : World σ} {result : List Outcome × World σ}
    (performs : engine.Performs step location before result) :
    result.2.calls = before.calls ++ engine.callsIn .perform step location before := by
  unfold callsIn
  cases performs with
  | unasked unasked _ => simp [unasked, requestedBy]
  | stopped dead _ => simp [dead, engine.probe_calls before]
  | pretended dead calls_eq _ => simp [dead, calls_eq]
  | asked asks live _ inquiry _ =>
      have sent := inquiry.calls_eq
      rw [engine.probe_calls before] at sent
      simp only [live, reduceIte, asks, requestedBy, sent]

theorem stays_performStepSafely {states : σ → Prop} (stays : engine.Stays .perform states)
    (isSound : step.IsSound) (location : Location) {world : World σ} (here : states world.backend) :
    states (engine.performStepSafely step location world).2.backend := by
  obtain ⟨probed, isLive, there, _⟩ := probe_of_stays stays here
  have performs : engine.Performs step location world (engine.performStepSafely step location world) :=
    performs_performStepSafely isSound location world
  generalize engine.performStepSafely step location world = result at performs ⊢
  cases performs with
  | unasked _ _ => exact here
  | stopped dead _ => rw [isLive] at dead; cases dead
  | pretended dead _ _ => rw [isLive] at dead; cases dead
  | asked _ _ connected inquiry _ =>
      rw [isLive] at inquiry
      exact inquiry.stays stays connected there

theorem sends_performStepSafely {user : Option String} {states : σ → Prop}
    (steady : engine.Steady .perform user states) (isSound : step.IsSound) (location : Location)
    {world : World σ} (here : states world.backend) :
    states (engine.performStepSafely step location world).2.backend ∧
      (engine.performStepSafely step location world).2.calls =
        world.calls ++ requestedBy .perform user (step.request? engine.vaults location) := by
  refine ⟨stays_performStepSafely steady.stays isSound location here, ?_⟩
  rw [(performs_performStepSafely isSound location world).calls_eq,
    callsIn_of_steady steady step location here]

end Engine

end ChainFlow
