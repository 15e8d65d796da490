import ChainFlow.Proofs.Flow.LiveRun

/-!
# What a run records

The events that one step adds to the journal are a segment. The events of a whole run are a sound
trace (`Course.tells`), by induction on the course of the run. What a run records is what its events
say; `FlowRun.Faithful` puts together what follows for a flow.
-/

namespace ChainFlow

open Trace

variable {σ : Type}

/-! ## One step -/

namespace Engine

variable {engine : Engine σ} {delay : Int} {observer : Option Observer}

theorem segment_of_told {ids : List String} {outcomes told : List Outcome}
    {opening outside reports : List Event}
    (shared : Shared ids outcomes) (told_initial : told <+: outcomes)
    (paused : ∀ event ∈ opening, event = .paused (.pacing delay))
    (isOutside : ∀ event ∈ outside, event.isOutside = true)
    (isReport : ∀ event ∈ reports, event.isReport = true) (recorded_eq : recorded reports = told) :
    Segment ids told ((opening ++ .began ids :: outside) ++ reports) := by
  obtain ⟨begunOpening, recordedOpening, abortsOpening, calmOpening⟩ :=
    quiet_of_isQuiet fun event member => by rw [paused event member]; rfl
  obtain ⟨begunOutside, recordedOutside, abortsOutside, calmOutside⟩ :=
    quiet_of_isQuiet fun event member => Event.isQuiet_of_isOutside (isOutside event member)
  obtain ⟨begunReports, abortsReports, idleReports⟩ := idle_of_isReport isReport
  constructor
  · rw [begun_append, begun_append, begun_began, begunOpening, begunOutside, begunReports]
    rfl
  · rw [recorded_append, recorded_append, recorded_began, recordedOpening, recordedOutside, recorded_eq]
    rfl
  · rw [aborts_append, aborts_append, aborts_began, abortsOpening, abortsOutside, abortsReports]
    rfl
  · rw [← shared.nodes]
    exact told_initial.map _
  · intro first isFirst second isSecond
    exact shared.agree first (told_initial.subset isFirst) second (told_initial.subset isSecond)
  · refine halts_append ?_ (halts_of_idle idleReports)
    intro event member
    rcases List.mem_append.mp member with isOpening | isBegun
    · exact calmOpening event isOpening
    · rcases List.mem_cons.mp isBegun with rfl | isOutside
      · rfl
      · exact calmOutside event isOutside

structure Added (ids : List String) (outcomes : List Outcome) (run : FlowRun) (world : World σ)
    (answer : Option Fault × FlowRun × World σ) (told : List Outcome) (events : List Event) :
    Prop where
  journal : answer.2.2.journal = world.journal ++ events
  outcomes_eq : answer.2.1.outcomes = run.outcomes ++ told
  segment : Segment ids told events
  all : answer.1 = none → told = outcomes

theorem added_by_step {step : FlowStep} (isSound : step.IsSound) (first : Bool) (location : Location)
    (run : FlowRun) (world : World σ) :
    ∃ told events, Added step.ids (engine.performedStep delay first step location world).1 run world
      (engine.recordedStep delay observer first step location run world) told events := by
  obtain ⟨pauses, paced, paused⟩ := pace_journal delay first (engine.probe world).2
  obtain ⟨outside, performing, isOutside⟩ := journal_of_touches
    (engine.touches_performStepSafely step location (engine.opened delay first step world))
  obtain ⟨told, reports, telling⟩ := told_recordAll observer (run.begin step.first.id)
    (engine.performedStep delay first step location world).1
    (engine.performedStep delay first step location world).2
  refine ⟨told, (pauses ++ .began step.ids :: outside) ++ reports, ?_, telling.outcomes_eq, ?_,
    telling.all⟩
  · rw [recordedStep, telling.journal, performedStep, performing, opened, log_journal, paced,
      probe_journal]
    simp only [List.append_assoc, List.cons_append, List.nil_append]
  · exact segment_of_told (engine.shared_performStepSafely isSound location _)
      telling.told_initial paused isOutside telling.isReport telling.recorded_eq

/-! ## All steps -/

structure Tells (ids : List String) (run : FlowRun) (world : World σ) (result : FlowRun × World σ)
    (trace : List Event) : Prop where
  journal : result.2.journal = world.journal ++ trace
  record : ∃ ended, result.1.ended = some ended ∧ result.1.outcomes =
    run.outcomes ++ recorded trace ++ (aborts trace).map (FlowRun.faultOutcome · ended)
  sound : Sound ids result.1.status trace

theorem tells_abort (ids : List String) (run : FlowRun) (fault : Fault) (world : World σ) :
    Tells ids run world (run.abortIn fault world) [.aborted fault] := by
  refine ⟨rfl, ⟨world.clock, rfl, ?_⟩, sound_abort ids fault⟩
  simp [FlowRun.abortIn, FlowRun.abort, FlowRun.record, FlowRun.finish, recorded, aborts]

theorem Tells.of_added {ids stepIds : List String} {outcomes told : List Outcome}
    {run : FlowRun} {world : World σ} {answer : Option Fault × FlowRun × World σ}
    {events rest : List Event} {result : FlowRun × World σ} {ended : Int}
    (added : Added stepIds outcomes run world answer told events)
    (journal : result.2.journal = answer.2.2.journal ++ rest) (ends : result.1.ended = some ended)
    (record : result.1.outcomes = answer.2.1.outcomes ++ recorded rest ++
      (aborts rest).map (FlowRun.faultOutcome · ended))
    (sound : Sound ids result.1.status (events ++ rest)) :
    Tells ids run world result (events ++ rest) := by
  refine ⟨?_, ⟨ended, ends, ?_⟩, sound⟩
  · rw [journal, added.journal, List.append_assoc]
  · rw [record, added.outcomes_eq, recorded_append, aborts_append, added.segment.recorded_eq,
      added.segment.aborts_eq, List.nil_append]
    simp only [List.append_assoc]

theorem Course.tells {first : Bool} {plan : Plan} {location : Location} {run : FlowRun}
    {world : World σ} {result : FlowRun × World σ}
    (course : engine.Course delay observer first plan location run world result)
    (distinct : (plan.rest.map (·.id)).Nodup) :
    ∃ trace, Tells ((plan.rest.filter Node.isAction).map (·.id)) run world result trace := by
  have ahead {plan handed done : Plan} {step : FlowStep} {world : World σ}
      (steps : plan.Steps (engine.probe world).1 step handed done) :
      (plan.rest.filter Node.isAction).map (·.id) =
        step.ids ++ (done.rest.filter Node.isAction).map (·.id) := by
    rw [steps.issues.actions_eq, List.map_append]
    rfl
  induction course with
  | @exhausted first plan after location run world exhausted passive =>
      refine ⟨[], ?_, ⟨_, rfl, ?_⟩, ?_⟩
      · rw [List.append_nil, probe_journal]
      · simp [FlowRun.finish, recorded, aborts]
      · rw [passive]
        exact sound_nil
  | @aborted first plan handed done step location run run' world world' fault steps answer =>
      obtain ⟨told, events, added⟩ :=
        added_by_step steps.issues.isSound first location run world
      rw [answer] at added
      rw [ahead steps]
      refine ⟨events ++ [.aborted fault], .of_added added rfl rfl ?_
        (added.segment.sound_last (.inr ⟨fault, rfl⟩))⟩
      simp [FlowRun.abortIn, FlowRun.abort, FlowRun.record, FlowRun.finish, recorded, aborts]
  | @failed first plan handed done step location run run' world world' steps answer failure =>
      obtain ⟨told, events, added⟩ :=
        added_by_step steps.issues.isSound first location run world
      rw [answer] at added
      rw [ahead steps]
      refine ⟨events ++ [], .of_added added (by simp) rfl ?_
        (added.segment.sound_last (.inl ⟨rfl, ?_⟩))⟩
      · simp [FlowRun.finish, recorded, aborts]
      · rw [added.all rfl]
        simpa [List.all_eq_false] using failure
  | @went first plan handed done step location run run' world world' result steps answer success _ ih =>
      obtain ⟨told, events, added⟩ :=
        added_by_step steps.issues.isSound first location run world
      rw [answer] at added
      obtain ⟨rest, tells⟩ := ih steps.ready.distinct
      obtain ⟨ended, ends, record⟩ := tells.record
      have all := added.all rfl
      have actions := distinct.sublist ((List.filter_sublist (p := Node.isAction)).map (·.id))
      rw [ahead steps] at actions ⊢
      refine ⟨events ++ rest, .of_added added tells.journal ends record
        (added.segment.sound_append ?_ ?_ tells.sound actions)⟩
      · have shared := engine.shared_performStepSafely steps.issues.isSound location
          (engine.opened delay first step world)
        rw [all]
        exact shared.nodes
      · rw [all]
        exact List.all_eq_true.mp success

end Engine

/-! ## Runs -/

theorem Trace.Halts.before_began {before after : List Event} {nodes : List String}
    (halts : Halts (before ++ .began nodes :: after)) :
    ∀ outcome ∈ recorded before, outcome.success = true := by
  intro outcome member
  obtain ⟨event, happened, isOutcome⟩ := List.mem_filterMap.mp member
  cases event with
  | recorded _ =>
      cases isOutcome
      have apart := (List.pairwise_append.mp halts).2.2 _ happened _ List.mem_cons_self
      cases success : outcome.success with
      | true => rfl
      | false =>
          have worked := apart (by simp [Event.isFailure, success])
          cases worked
  | _ => cases isOutcome

/-- What a run of a flow keeps to, given the ids of the actions of the flow and the events of the
run. An outcome that stands for a fault comes last, if there is one; all others are recorded for
steps. -/
structure FlowRun.Faithful (ids : List String) (trace : List Event) (run : FlowRun) : Prop where
  closed : run.status = .completed ∨ run.status = .failed
  record : ∃ ended, run.ended = some ended ∧
    run.outcomes = recorded trace ++ (aborts trace).map (FlowRun.faultOutcome · ended)
  aborts_le : (aborts trace).length ≤ 1
  ordered : (recorded trace).map (·.node) <+: ids
  earlier : ∀ before nodes after, trace = before ++ .began nodes :: after →
    ∀ outcome ∈ recorded before, outcome.success = true
  agree : ∀ nodes ∈ begun trace, ∀ first ∈ recorded trace, ∀ second ∈ recorded trace,
    first.node ∈ nodes → second.node ∈ nodes → Agree first second
  completed_iff : run.status = .completed ↔ ∀ outcome ∈ run.outcomes, outcome.success = true
  complete : run.status = .completed → run.outcomes.map (·.node) = ids
  halts : ∀ before failure after, trace = before ++ failure :: after → failure.isFailure = true →
    begun after = [] ∧ ∀ call, .sent call ∉ after

theorem Trace.Halts.after_failure {before after : List Event} {failure : Event}
    (halts : Halts (before ++ failure :: after)) (failed : failure.isFailure = true) :
    begun after = [] ∧ ∀ call, .sent call ∉ after := by
  have idle : ∀ event ∈ after, event.isWork = false := fun event member =>
    (List.pairwise_cons.mp (List.pairwise_append.mp halts).2.1).1 event member failed
  constructor
  · rw [begun, List.filterMap_eq_nil_iff]
    intro event member
    have rests := idle event member
    cases event <;> first | rfl | cases rests
  · intro call member
    cases idle _ member

theorem Engine.Tells.faithful {ids : List String} {run : FlowRun} {world : World σ}
    {result : FlowRun × World σ} {trace : List Event}
    (tells : Engine.Tells ids run world result trace) (empty : run.outcomes = []) :
    FlowRun.Faithful ids trace result.1 := by
  obtain ⟨ended, ends, record⟩ := tells.record
  rw [empty, List.nil_append] at record
  have sound := tells.sound
  constructor
  · exact sound.closed
  · exact ⟨ended, ends, record⟩
  · exact sound.aborts_le
  · exact sound.recorded_initial.trans sound.begun_initial
  · rintro before nodes after rfl
    exact sound.halts.before_began
  · exact sound.agree
  · rw [sound.completed_iff, record]
    constructor
    · rintro ⟨clean, success⟩
      simpa [clean] using success
    · intro success
      refine ⟨?_, fun outcome member => success outcome (List.mem_append_left _ member)⟩
      -- The outcome of a fault is no success.
      cases faults : aborts trace with
      | nil => rfl
      | cons fault faults' =>
          have fine := success (FlowRun.faultOutcome fault ended) (by simp [faults])
          cases fine
  · intro completed
    rw [record, (sound.completed_iff.mp completed).1, List.map_nil, List.append_nil]
    exact sound.complete completed
  · rintro before failure after rfl failed
    exact sound.halts.after_failure failed

/-- Whatever the backend answers and whenever it comes or goes, and whatever the observer does, a run
of a flow is faithful to the actions of the flow. -/
theorem Engine.performFlow_faithful (engine : Engine σ) (delay : Int) (observer : Option Observer)
    (nodes : List Node) (edges : List Edge) (world : World σ) :
    ∃ trace, (engine.performFlow delay observer nodes edges world).2.journal = world.journal ++ trace ∧
      FlowRun.Faithful (((Graph.order nodes edges).filter Node.isAction).map (·.id)) trace
        (engine.performFlow delay observer nodes edges world).1 := by
  cases runnable : Graph.requireRunnable nodes with
  | error cause =>
      have ended : engine.performFlow delay observer nodes edges world =
          (FlowRun.start world.clock).abortIn (.unrunnable cause) world := by
        simp only [Engine.performFlow, runnable]
      have tells := Engine.tells_abort (((Graph.order nodes edges).filter Node.isAction).map (·.id))
        (FlowRun.start world.clock) (.unrunnable cause) world
      rw [ended]
      exact ⟨_, tells.journal, tells.faithful rfl⟩
  | ok found =>
      obtain ⟨node, start⟩ := found
      have distinct : ((Graph.order nodes edges).map (·.id)).Nodup :=
        Graph.order_distinct (Graph.startNode?_of_runnable runnable)
      obtain ⟨trace, tells⟩ :=
        (engine.course_performFlow delay observer runnable edges world).tells distinct
      exact ⟨trace, tells.journal, tells.faithful rfl⟩

end ChainFlow
