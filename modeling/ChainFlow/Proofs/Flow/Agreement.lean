import ChainFlow.Proofs.Flow.DryRun
import ChainFlow.Proofs.Flow.LiveRun
import ChainFlow.Proofs.Flow.Settling
import ChainFlow.Proofs.Sample

/-!
# A dry run foresees a run

As long as backends stay live, what a flow asks for is known from its plan alone: `callsAlong` lists
the calls of the steps, each at the location where the flow has come to. A dry run sends all of them,
a run sends them up to the step at which it stops. So a run asks for nothing that a dry run has not
asked for before.
-/

namespace ChainFlow

variable {σ : Type}

/-- The calls of some steps, one after the other, from a location on. -/
def callsAlong (purpose : Purpose) (user : Option String) (vaults : Vaults) :
    Location → List FlowStep → List Call
  | _, [] => []
  | location, step :: rest =>
    requestedBy purpose user (step.request? vaults location) ++
      callsAlong purpose user vaults (location.after step.first) rest

namespace Engine

variable {engine : Engine σ} {user : Option String} {states : σ → Prop}

/-! ## What is sent -/

theorem steps_of_live {purpose : Purpose} (stays : engine.Stays purpose states)
    {world : World σ} (here : states world.backend) {plan handed done : Plan} {step : FlowStep}
    (steps : plan.Steps (engine.probe world).1 step handed done) :
    plan.Steps true step handed done := by
  obtain ⟨probed, live, _, _⟩ := probe_of_stays stays here
  rwa [live] at steps

theorem stays_quotedStep (stays : engine.Stays .quote states) (step : FlowStep) (location : Location)
    {world : World σ} (here : states world.backend) :
    states (engine.quotedStep step location world).2.backend := by
  obtain ⟨probed, live, there, _⟩ := probe_of_stays stays here
  unfold quotedStep
  simp only [live]
  have begun : states (probed.log (.began step.ids)).backend := there
  exact stays_quoteStepSafely stays step location begun

theorem calls_quotedStep (steady : engine.Steady .quote user states) (step : FlowStep)
    (location : Location) {world : World σ} (here : states world.backend) :
    (engine.quotedStep step location world).2.calls =
      world.calls ++ requestedBy .quote user (step.request? engine.vaults location) := by
  obtain ⟨probed, live, there, same⟩ := probe_of_stays steady.stays here
  unfold quotedStep
  simp only [live]
  have begun : states (probed.log (.began step.ids)).backend := there
  rw [(sends_quoteStepSafely steady step location begun).2, log_calls, List.append_nil, same]

section

variable (delay : Int) (observer : Option Observer) (first : Bool)

theorem stays_opened (stays : engine.Stays .perform states) (step : FlowStep) {world : World σ}
    (here : states world.backend) : states (engine.opened delay first step world).backend := by
  obtain ⟨probed, live, there, _⟩ := probe_of_stays stays here
  simp only [Engine.opened, live, log_backend, pace_backend]
  exact there

theorem stays_recordedStep (stays : engine.Stays .perform states) {step : FlowStep}
    (isSound : step.IsSound) (location : Location) (run : FlowRun) {world : World σ}
    (here : states world.backend) :
    states (engine.recordedStep delay observer first step location run world).2.2.backend := by
  obtain ⟨told, reports, telling⟩ := told_recordAll observer (run.begin step.first.id)
    (engine.performedStep delay first step location world).1
    (engine.performedStep delay first step location world).2
  rw [recordedStep, telling.backend_eq]
  exact stays_performStepSafely stays isSound location (stays_opened delay first stays step here)

theorem calls_recordedStep (steady : engine.Steady .perform user states) {step : FlowStep}
    (isSound : step.IsSound) (location : Location) (run : FlowRun) {world : World σ}
    (here : states world.backend) :
    (engine.recordedStep delay observer first step location run world).2.2.calls =
      world.calls ++ requestedBy .perform user (step.request? engine.vaults location) := by
  obtain ⟨probed, live, _, same⟩ := probe_of_stays steady.stays here
  obtain ⟨pauses, paced, paused⟩ := pace_journal delay first probed
  have opening : (engine.opened delay first step world).calls = world.calls := by
    simp only [Engine.opened, live, log_calls, List.append_nil]
    refine (Trace.calls_of_idle paced fun event member => ?_).trans same
    rw [paused event member]
    rfl
  have opened := stays_opened delay first steady.stays step here
  obtain ⟨told, reports, telling⟩ := told_recordAll observer (run.begin step.first.id)
    (engine.performedStep delay first step location world).1
    (engine.performedStep delay first step location world).2
  have quiet := Trace.calls_of_idle telling.journal (Trace.idle_of_isReport telling.isReport).2.2
  rw [recordedStep, quiet, performedStep, (sends_performStepSafely steady isSound location opened).2,
    opening]

end

theorem Survey.calls_eq (steady : engine.Steady .quote user states) {plan : Plan}
    {location : Location} {tally : Tally} {world : World σ} {result : Tally × World σ}
    (survey : engine.Survey plan location tally world result) (here : states world.backend) :
    result.2.calls = world.calls ++
      callsAlong .quote user engine.vaults location (plan.drain true).1 := by
  induction survey with
  | exhausted exhausted _ =>
      obtain ⟨probed, live, _, same⟩ := probe_of_stays steady.stays here
      rw [live] at exhausted ⊢
      rw [Plan.drain_of_exhausted exhausted, callsAlong, List.append_nil, same]
  | went steps _ _ ih =>
      rw [ih (stays_quotedStep steady.stays _ _ here), calls_quotedStep steady _ _ here,
        Plan.drain_of_steps (steps_of_live steady.stays here steps), callsAlong, List.append_assoc]

structure Sent (planned : List Call) (world : World σ) (result : FlowRun × World σ)
    (sent : List Call) : Prop where
  calls_eq : result.2.calls = world.calls ++ sent
  initial : sent <+: planned
  all : result.1.status = .completed → sent = planned

theorem Course.sent (steady : engine.Steady .perform user states) {delay : Int}
    {observer : Option Observer} {first : Bool} {plan : Plan} {location : Location} {run : FlowRun}
    {world : World σ} {result : FlowRun × World σ}
    (course : engine.Course delay observer first plan location run world result)
    (here : states world.backend) :
    ∃ sent, Sent (callsAlong .perform user engine.vaults location (plan.drain true).1) world
      result sent := by
  induction course with
  | exhausted exhausted _ =>
      obtain ⟨probed, live, _, same⟩ := probe_of_stays steady.stays here
      rw [live] at exhausted ⊢
      rw [Plan.drain_of_exhausted exhausted]
      exact ⟨[], by rw [List.append_nil, same], List.prefix_refl _, fun _ => rfl⟩
  | @aborted first plan handed done step location run run' world world' fault steps answer =>
      have told :=
        calls_recordedStep delay observer first steady steps.issues.isSound location run here
      rw [answer] at told
      rw [Plan.drain_of_steps (steps_of_live steady.stays here steps), callsAlong]
      refine ⟨_, ?_, List.prefix_append _ _, ?_⟩
      · simp only [FlowRun.abortIn, log_calls, List.append_nil]
        exact told
      · rintro ⟨⟩
  | @failed first plan handed done step location run run' world world' steps answer failure =>
      have told :=
        calls_recordedStep delay observer first steady steps.issues.isSound location run here
      rw [answer] at told
      rw [Plan.drain_of_steps (steps_of_live steady.stays here steps), callsAlong]
      refine ⟨_, told, List.prefix_append _ _, ?_⟩
      rintro ⟨⟩
  | @went first plan handed done step location run run' world world' result steps answer success _ ih =>
      have later :=
        stays_recordedStep delay observer first steady.stays steps.issues.isSound location run here
      have told :=
        calls_recordedStep delay observer first steady steps.issues.isSound location run here
      rw [answer] at later told
      obtain ⟨rest, goes⟩ := ih later
      rw [Plan.drain_of_steps (steps_of_live steady.stays here steps), callsAlong]
      refine ⟨_, ?_, (List.prefix_append_right_inj _).mpr goes.initial, ?_⟩
      · rw [goes.calls_eq]
        exact (congrArg (· ++ rest) told).trans (List.append_assoc _ _ _)
      · intro completed
        rw [goes.all completed]

end Engine

/-! ## Runs and dry runs -/

/-- A call as it is sent. -/
def Call.named (call : Call) : String × Json := (call.method.name, call.payload)

/-- A call as it is sent when it is only quoted. -/
def Call.rehearsed (call : Call) : String × Json := (s!"simulate_{call.method.name}", call.payload)

theorem map_rehearsed_requestedBy (user : Option String) (request : Option (Except Fault Request)) :
    (requestedBy .perform user request).map Call.rehearsed =
      (requestedBy .quote user request).map Call.named := by
  rcases request with _ | fault | request
  · rfl
  · rfl
  · simp only [requestedBy, requested, Except.bind, Request.toCall]
    cases request.payload (user.getD "") with
    | ok payload => rfl
    | error fault => rfl

theorem map_rehearsed_callsAlong (user : Option String) (vaults : Vaults) (location : Location)
    (steps : List FlowStep) :
    (callsAlong .perform user vaults location steps).map Call.rehearsed =
      (callsAlong .quote user vaults location steps).map Call.named := by
  induction steps generalizing location with
  | nil => rfl
  | cons step steps ih =>
      simp only [callsAlong, List.map_append, map_rehearsed_requestedBy, ih]

/-- While their backends stay live for the same user, what a run sends is what a dry run of the same
drawing sends, up to where the run stops. -/
theorem performFlow_rehearsed {τ : Type} {performing : Engine σ} {quoting : Engine τ}
    {backend : Backend σ} {rehearsal : Backend τ} {user : Option String} {world : World σ}
    {other : World τ} {nodes : List Node} {found : Node × Start}
    (vaults : performing.vaults = quoting.vaults) (connected : performing.backend = some backend)
    (stays : backend.StaysLive .perform user world.backend)
    (rehearsing : quoting.backend = some rehearsal)
    (remains : rehearsal.StaysLive .quote user other.backend)
    (runnable : Graph.requireRunnable nodes = .ok found) (edges : List Edge) (delay : Int)
    (observer : Option Observer) (rate : Binary64) :
    ∃ sent quoted,
      (performing.performFlow delay observer nodes edges world).2.calls = world.calls ++ sent ∧
      (quoting.quoteFlow rate nodes edges other).2.calls = other.calls ++ quoted ∧
      sent.map Call.rehearsed <+: quoted.map Call.named ∧
      ((performing.performFlow delay observer nodes edges world).1.status = .completed →
        sent.map Call.rehearsed = quoted.map Call.named) := by
  obtain ⟨node, start⟩ := found
  obtain ⟨sent, done⟩ := (performing.course_performFlow delay observer runnable edges world).sent
    (Engine.steady_of_staysLive connected stays) .start
  obtain ⟨result, goes, survey⟩ := quoting.survey_quoteFlow rate runnable edges other
  have quoted := survey.calls_eq (Engine.steady_of_staysLive rehearsing remains) .start
  refine ⟨sent, _, done.calls_eq, (by rw [goes]; exact quoted), ?_, fun completed => ?_⟩
  · rw [← map_rehearsed_callsAlong, ← vaults]
    exact done.initial.map _
  · rw [← map_rehearsed_callsAlong, ← vaults, done.all completed]

theorem performFlow_rehearsed_sample :
    ∃ sent quoted,
      (Sample.engine.performFlow 0 none Sample.nodes Sample.edges (.fresh 0 ())).2.calls =
        [] ++ sent ∧
      (Sample.engine.quoteFlow (.zero false) Sample.nodes Sample.edges (.fresh 7 ())).2.calls =
        [] ++ quoted ∧
      sent.map Call.rehearsed <+: quoted.map Call.named ∧
      ((Sample.engine.performFlow 0 none Sample.nodes Sample.edges (.fresh 0 ())).1.status =
        .completed → sent.map Call.rehearsed = quoted.map Call.named) :=
  performFlow_rehearsed rfl rfl ⟨fun _ _ => rfl, fun _ _ => rfl⟩ rfl
    ⟨fun _ _ => rfl, fun _ _ => rfl⟩ rfl Sample.edges 0 none (.zero false)

end ChainFlow
