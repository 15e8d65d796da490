import ChainFlow.Proofs.Flow.Audit
import ChainFlow.Proofs.Flow.Faithful

/-!
# What an observer is told

An observer of a run is told of every outcome of a step, once and as soon as it is recorded, and of
nothing else; the run stops where it objects. `Hears` says how an observer takes outcomes that it is
told one after the other. Recording the outcomes of a step is one hearing, and those of the steps of a
run join to one (`Course.observed`); so `FlowRun.Reports` can say what becomes of any objection.
-/

namespace ChainFlow

open Trace

variable {σ : Type}

namespace Trace

def notified (trace : List Event) : List Outcome :=
  trace.filterMap fun
    | .notified outcome => some outcome
    | _ => none

/-- The events by which outcomes are recorded and an observer is told of each. -/
def reports (told : List Outcome) : List Event :=
  told.flatMap fun outcome => [.recorded outcome, .notified outcome]

@[simp] theorem notified_append (first second : List Event) :
    notified (first ++ second) = notified first ++ notified second := List.filterMap_append

@[simp] theorem reports_append (first second : List Outcome) :
    reports (first ++ second) = reports first ++ reports second := List.flatMap_append

theorem isReport_of_mem_reports {told : List Outcome} :
    ∀ event ∈ reports told, event.isReport = true := by
  intro event member
  obtain ⟨outcome, _, isEvent⟩ := List.mem_flatMap.mp member
  simp only [List.mem_cons, List.not_mem_nil, or_false] at isEvent
  rcases isEvent with rfl | rfl <;> rfl

theorem told_of_reports {trace : List Event} {told : List Outcome}
    (same : trace.filter Event.isReport = reports told) :
    recorded trace = told ∧ notified trace = told := by
  have read : recorded (reports told) = told ∧ notified (reports told) = told := by
    clear same
    induction told with
    | nil => exact ⟨rfl, rfl⟩
    | cons outcome told ih =>
        exact ⟨congrArg (outcome :: ·) ih.1, congrArg (outcome :: ·) ih.2⟩
  rw [← same] at read
  unfold recorded notified at read ⊢
  rw [List.filterMap_filter, List.filterMap_filter] at read
  -- What is no report tells of no outcome.
  refine ⟨Eq.trans (congrArg (trace.filterMap ·) ?_) read.1,
    Eq.trans (congrArg (trace.filterMap ·) ?_) read.2⟩ <;>
  · funext event
    cases event <;> rfl

theorem unreported_of_isQuiet {events : List Event}
    (quiet : ∀ event ∈ events, event.isQuiet = true) : events.filter Event.isReport = [] := by
  rw [List.filter_eq_nil_iff]
  intro event member
  have own := quiet event member
  cases event <;> first | exact Bool.false_ne_true | cases own

end Trace

theorem World.notices_eq (world : World σ) : world.notices = notified world.journal := rfl

/-! ## Hearing -/

/-- How an observer that has heard of some outcomes takes more of them: it bears them all, or stops
the run at the last. -/
inductive Hears (observer : Observer) : List Outcome → List Outcome → Option Fault → Prop
  | silence {heard : List Outcome} : Hears observer heard [] none
  | objected {heard : List Outcome} {outcome : Outcome} {fault : Fault} :
      observer heard outcome = some fault → Hears observer heard [outcome] (some fault)
  | borne {heard told : List Outcome} {outcome : Outcome} {fault? : Option Fault} :
      observer heard outcome = none → Hears observer (heard ++ [outcome]) told fault? →
      Hears observer heard (outcome :: told) fault?

namespace Hears

variable {observer : Observer} {heard told : List Outcome} {fault? : Option Fault}

theorem append {later : List Outcome} (hears : Hears observer heard told none)
    (more : Hears observer (heard ++ told) later fault?) :
    Hears observer heard (told ++ later) fault? := by
  generalize none_eq : (none : Option Fault) = calm at hears
  induction hears with
  | silence => rwa [List.append_nil] at more
  | objected _ => cases none_eq
  | borne bears _ ih =>
      refine .borne bears (ih ?_ none_eq)
      rwa [List.append_assoc, List.singleton_append]

theorem getLast_of_fault {fault : Fault} (hears : Hears observer heard told (some fault)) :
    ∃ earlier outcome, told = earlier ++ [outcome] := by
  generalize some_eq : some fault = stopped at hears
  induction hears with
  | silence => cases some_eq
  | objected _ => exact ⟨[], _, rfl⟩
  | @borne heard told first fault? _ _ ih =>
      obtain ⟨earlier, outcome, rfl⟩ := ih some_eq
      exact ⟨first :: earlier, outcome, rfl⟩

/-- The first objection is the last word. -/
theorem of_objection (hears : Hears observer heard told fault?) {earlier later : List Outcome}
    {outcome : Outcome} {fault : Fault} (split : told = earlier ++ outcome :: later)
    (objects : observer (heard ++ earlier) outcome = some fault) :
    later = [] ∧ fault? = some fault := by
  induction hears generalizing earlier with
  | silence => simp at split
  | objected own =>
      cases earlier with
      | nil =>
          obtain ⟨rfl, rfl⟩ := List.cons.inj split
          rw [List.append_nil, own] at objects
          exact ⟨rfl, objects⟩
      | cons _ _ => simp at split
  | borne bears _ ih =>
      cases earlier with
      | nil =>
          obtain ⟨rfl, _⟩ := List.cons.inj split
          rw [List.append_nil, bears] at objects
          cases objects
      | cons _ earlier =>
          obtain ⟨rfl, rest⟩ := List.cons.inj split
          exact ih rest (by rwa [List.append_assoc, List.singleton_append])

theorem none_of_no_objection (hears : Hears observer heard told fault?)
    (bears : ∀ earlier outcome later, told = earlier ++ outcome :: later →
      observer (heard ++ earlier) outcome = none) : fault? = none := by
  induction hears with
  | silence => rfl
  | objected own =>
      have borne := bears [] _ [] rfl
      rw [List.append_nil, own] at borne
      cases borne
  | @borne heard told first fault? _ _ ih =>
      refine ih fun earlier outcome later split => ?_
      rw [List.append_assoc, List.singleton_append]
      exact bears (first :: earlier) outcome later (congrArg (first :: ·) split)

end Hears

/-- What an observer has of a step: nothing while the step is performed, and then the outcomes up to
the one at which it stops the run, if there is one. -/
structure Heard (observer : Observer) (run : FlowRun) (world : World σ)
    (answer : Option Fault × FlowRun × World σ) (opening : List Event) (told : List Outcome) : Prop where
  journal : answer.2.2.journal = world.journal ++ (opening ++ reports told)
  unreported : opening.filter Event.isReport = []
  unaborted : aborts opening = []
  hears : Hears observer world.notices told answer.1
  current_eq : answer.2.1.current = (told.getLast?.map (·.node)).or run.current

namespace Heard

variable {observer : Observer} {run : FlowRun} {world : World σ}
  {answer : Option Fault × FlowRun × World σ} {opening : List Event} {told : List Outcome}

theorem reports_eq (heard : Heard observer run world answer opening told) :
    (opening ++ reports told).filter Event.isReport = reports told := by
  rw [List.filter_append, heard.unreported, List.nil_append,
    List.filter_eq_self.mpr isReport_of_mem_reports]

theorem aborts_eq (heard : Heard observer run world answer opening told) :
    aborts (opening ++ reports told) = [] := by
  rw [aborts_append, heard.unaborted, (idle_of_isReport isReport_of_mem_reports).2.1, List.append_nil]

theorem notices_eq (heard : Heard observer run world answer opening told) :
    answer.2.2.notices = world.notices ++ told := by
  rw [World.notices_eq, heard.journal, notified_append, (told_of_reports heard.reports_eq).2,
    World.notices_eq]

end Heard

theorem current_cons (outcome : Outcome) (told : List Outcome) (before : Option String) :
    (told.getLast?.map (·.node)).or (some outcome.node) =
      ((outcome :: told).getLast?.map (·.node)).or before := by
  rw [List.getLast?_cons]
  cases told.getLast? <;> rfl

theorem heard_recordAll (observer : Observer) (run : FlowRun) (outcomes : List Outcome)
    (world : World σ) : ∃ told, (outcomes ≠ [] → told ≠ []) ∧
      Heard observer run world (FlowRun.recordAll (some observer) run outcomes world) [] told := by
  induction outcomes generalizing run world with
  | nil => exact ⟨[], id, (List.append_nil _).symm, rfl, rfl, .silence, rfl⟩
  | cons outcome outcomes ih =>
      have telling : (FlowRun.tell (some observer) outcome world).journal =
          world.journal ++ reports [outcome] := List.append_assoc _ _ _
      rw [FlowRun.recordAll_cons]
      cases objects : FlowRun.objection (some observer) world outcome with
      | some fault =>
          exact ⟨[outcome], fun _ => List.cons_ne_nil _ _, telling, rfl, rfl, .objected objects, rfl⟩
      | none =>
          obtain ⟨told, _, later⟩ := ih ((run.begin outcome.node).record outcome)
            (FlowRun.tell (some observer) outcome world)
          refine ⟨outcome :: told, fun _ => List.cons_ne_nil _ _, ?_, rfl, rfl, .borne objects ?_, ?_⟩
          · rw [later.journal, telling, List.append_assoc]
            rfl
          · have hears := later.hears
            rwa [World.notices_eq, telling, notified_append] at hears
          · rw [later.current_eq]
            exact current_cons outcome told run.current

namespace Engine

variable {engine : Engine σ} {delay : Int} {observer : Observer}

theorem heard_recordedStep {step : FlowStep} (isSound : step.IsSound) (first : Bool)
    (location : Location) (run : FlowRun) (world : World σ) : ∃ opening told,
      Heard observer run world
        (engine.recordedStep delay (some observer) first step location run world) opening told := by
  obtain ⟨pauses, paced, paused⟩ := pace_journal delay first (engine.probe world).2
  obtain ⟨outside, performing, isOutside⟩ := journal_of_touches
    (engine.touches_performStepSafely step location (engine.opened delay first step world))
  have journal : (engine.performedStep delay first step location world).2.journal =
      world.journal ++ (pauses ++ .began step.ids :: outside) := by
    rw [performedStep, performing, opened, log_journal, paced, probe_journal]
    simp only [List.append_assoc, List.cons_append, List.nil_append]
  have quietPauses : ∀ event ∈ pauses, event.isQuiet = true := fun event member => by
    rw [paused event member]
    rfl
  have quietOutside : ∀ event ∈ outside, event.isQuiet = true := fun event member =>
    Event.isQuiet_of_isOutside (isOutside event member)
  have unreported : (pauses ++ .began step.ids :: outside).filter Event.isReport = reports [] := by
    rw [List.filter_append, unreported_of_isQuiet quietPauses, List.nil_append,
      List.filter_cons_of_neg (by exact Bool.false_ne_true), unreported_of_isQuiet quietOutside]
    rfl
  have outcomes_ne : (engine.performedStep delay first step location world).1 ≠ [] := by
    intro none
    have nodes := (engine.shared_performStepSafely isSound location
      (engine.opened delay first step world)).nodes
    rw [← performedStep, none] at nodes
    cases step <;> cases nodes
  obtain ⟨told, some_, heard⟩ := heard_recordAll observer (run.begin step.first.id)
    (engine.performedStep delay first step location world).1
    (engine.performedStep delay first step location world).2
  refine ⟨pauses ++ .began step.ids :: outside, told, ?_, unreported, ?_, ?_, ?_⟩
  · rw [recordedStep, heard.journal, journal, List.nil_append, List.append_assoc]
  · rw [aborts_append, aborts_began, (quiet_of_isQuiet quietPauses).2.2.1,
      (quiet_of_isQuiet quietOutside).2.2.1, List.append_nil]
  · have hears := heard.hears
    rwa [World.notices_eq, journal, notified_append, (told_of_reports unreported).2,
      List.append_nil] at hears
  -- A step has an outcome, so its first node is not the last that a run has begun.
  · rw [recordedStep, heard.current_eq]
    obtain ⟨last, isLast⟩ := Option.isSome_iff_exists.mp
      (List.getLast?_isSome.mpr (some_ outcomes_ne))
    rw [isLast]
    rfl

/-- What an observer has of a run from some point on, and of the fault, if any, with which it stops
the run. -/
structure Observed (observer : Observer) (run : FlowRun) (world : World σ)
    (result : FlowRun × World σ) (trace : List Event) (told : List Outcome)
    (fault? : Option Fault) : Prop where
  journal : result.2.journal = world.journal ++ trace
  reports_eq : trace.filter Event.isReport = reports told
  hears : Hears observer world.notices told fault?
  aborts_eq : aborts trace = fault?.toList
  current_eq : result.1.current = (told.getLast?.map (·.node)).or run.current
  ends : ∀ fault, fault? = some fault → ∃ before outcome, told.getLast? = some outcome ∧
    trace = before ++ [.notified outcome, .aborted fault]

theorem Course.observed {first : Bool} {plan : Plan} {location : Location} {run : FlowRun}
    {world : World σ} {result : FlowRun × World σ}
    (course : engine.Course delay (some observer) first plan location run world result) :
    ∃ trace told fault?, Observed observer run world result trace told fault? := by
  induction course with
  | exhausted _ _ =>
      refine ⟨[], [], none, ?_, rfl, .silence, rfl, rfl, by rintro fault ⟨⟩⟩
      rw [List.append_nil, probe_journal]
  | @aborted first plan handed done step location run run' world world' fault steps answer =>
      obtain ⟨opening, told, heard⟩ := heard_recordedStep steps.issues.isSound first location run world
      rw [answer] at heard
      obtain ⟨earlier, outcome, rfl⟩ := heard.hears.getLast_of_fault
      refine ⟨(opening ++ reports (earlier ++ [outcome])) ++ [.aborted fault], _, some fault, ?_, ?_,
        heard.hears, ?_, heard.current_eq, ?_⟩
      · rw [← List.append_assoc]
        exact congrArg (· ++ _) heard.journal
      · rw [List.filter_append, heard.reports_eq]
        exact List.append_nil _
      · rw [aborts_append, heard.aborts_eq]
        rfl
      · rintro _ ⟨⟩
        refine ⟨opening ++ reports earlier ++ [.recorded outcome], outcome, List.getLast?_concat, ?_⟩
        rw [reports_append]
        simp [reports]
  | @failed first plan handed done step location run run' world world' steps answer failure =>
      obtain ⟨opening, told, heard⟩ := heard_recordedStep steps.issues.isSound first location run world
      rw [answer] at heard
      exact ⟨_, told, none, heard.journal, heard.reports_eq, heard.hears, heard.aborts_eq,
        heard.current_eq, by rintro fault ⟨⟩⟩
  | @went first plan handed done step location run run' world world' result steps answer _ _ ih =>
      obtain ⟨opening, told, heard⟩ := heard_recordedStep steps.issues.isSound first location run world
      rw [answer] at heard
      obtain ⟨trace, later, fault?, observed⟩ := ih
      refine ⟨(opening ++ reports told) ++ trace, told ++ later, fault?, ?_, ?_, ?_, ?_, ?_, ?_⟩
      · rw [observed.journal, heard.journal, List.append_assoc]
      · rw [List.filter_append, heard.reports_eq, observed.reports_eq, reports_append]
      · have hears := observed.hears
        rw [heard.notices_eq] at hears
        exact heard.hears.append hears
      · rw [aborts_append, heard.aborts_eq, observed.aborts_eq, List.nil_append]
      · rw [observed.current_eq, heard.current_eq, List.getLast?_append]
        cases later.getLast? <;> rfl
      · intro fault isFault
        obtain ⟨before, outcome, isLast, rfl⟩ := observed.ends fault isFault
        refine ⟨opening ++ reports told ++ before, outcome, ?_, (List.append_assoc _ _ _).symm⟩
        rw [List.getLast?_append, isLast]
        rfl

end Engine

/-- What a run owes to its observer, which has heard of some outcomes before. -/
structure FlowRun.Reports (observer : Observer) (heard : List Outcome) (nodes : List Node)
    (trace : List Event) (run : FlowRun) : Prop where
  /-- The observer is told of every outcome of a step once it is recorded, and before the next one
  is. -/
  reports_eq : trace.filter Event.isReport = reports (recorded trace)
  /-- It is not told of the outcome that stands for a fault. -/
  record : ∃ ended, run.ended = some ended ∧
    run.outcomes = recorded trace ++ (aborts trace).map (FlowRun.faultOutcome · ended)
  /-- Where it objects the run ends, with nothing but an outcome for the objection. -/
  stopped : ∀ earlier outcome later fault, recorded trace = earlier ++ outcome :: later →
    observer (heard ++ earlier) outcome = some fault →
    run.status = .failed ∧
    (∃ ended, run.outcomes = earlier ++ [outcome, ⟨"error", false, none, none,
      some (if fault.message = "" then "Execution failed" else fault.message), ended⟩]) ∧
    ∃ before, trace = before ++ [.notified outcome, .aborted fault]
  /-- Where it does not object there is no such outcome, unless there is nothing to run. -/
  unstopped : (∀ earlier outcome later, recorded trace = earlier ++ outcome :: later →
    observer (heard ++ earlier) outcome = none) →
    aborts trace = match Graph.requireRunnable nodes with
      | .error cause => [.unrunnable cause]
      | .ok _ => []
  current_eq : run.current = (recorded trace).getLast?.map (·.node)

theorem FlowRun.reports_abort (observer : Observer) (heard : List Outcome) {nodes : List Node}
    {cause : Unrunnable} (unrunnable : Graph.requireRunnable nodes = .error cause) (now : Int)
    (world : World σ) :
    Reports observer heard nodes [.aborted (.unrunnable cause)]
      ((FlowRun.start now).abortIn (.unrunnable cause) world).1 := by
  constructor
  · rfl
  · exact ((Engine.tells_abort [] (FlowRun.start now) (.unrunnable cause) world).faithful rfl).record
  · intro earlier outcome later fault split
    cases earlier <;> cases split
  · intro _
    rw [unrunnable]
    rfl
  · rfl

/-- What an observer has of all steps of a run is what the run owes to it. -/
theorem Engine.Observed.reports {observer : Observer} {ids : List String} {nodes : List Node}
    {found : Node × Start} {run : FlowRun} {world : World σ} {result : FlowRun × World σ}
    {trace : List Event} {told : List Outcome} {fault? : Option Fault}
    (observed : Engine.Observed observer run world result trace told fault?)
    (tells : Engine.Tells ids run world result trace) (empty : run.outcomes = [])
    (idle : run.current = none) (runnable : Graph.requireRunnable nodes = .ok found) :
    FlowRun.Reports observer world.notices nodes trace result.1 := by
  have faithful := tells.faithful empty
  obtain ⟨rfl, _⟩ := told_of_reports observed.reports_eq
  constructor
  · exact observed.reports_eq
  · exact faithful.record
  · intro earlier outcome later fault split objects
    obtain ⟨rfl, rfl⟩ := observed.hears.of_objection split objects
    obtain ⟨ended, _, record⟩ := faithful.record
    rw [observed.aborts_eq, split] at record
    refine ⟨?_, ⟨ended, ?_⟩, ?_⟩
    · refine faithful.closed.resolve_left fun completed => ?_
      have success := faithful.completed_iff.mp completed (FlowRun.faultOutcome fault ended)
        (by rw [record]; simp)
      cases success
    · rw [record, List.append_assoc]
      rfl
    · obtain ⟨before, last, isLast, ends⟩ := observed.ends fault rfl
      rw [split, List.getLast?_concat] at isLast
      cases isLast
      exact ⟨before, ends⟩
  · intro bears
    rw [runnable, observed.aborts_eq, observed.hears.none_of_no_objection bears]
    rfl
  · rw [observed.current_eq, idle]
    exact Option.or_none

/-- An observer is told of exactly what the steps of a run come to, and its objection ends the run. -/
theorem Engine.performFlow_reports (engine : Engine σ) (delay : Int) (observer : Observer)
    (nodes : List Node) (edges : List Edge) (world : World σ) :
    ∃ trace, (engine.performFlow delay (some observer) nodes edges world).2.journal =
        world.journal ++ trace ∧
      FlowRun.Reports observer world.notices nodes trace
        (engine.performFlow delay (some observer) nodes edges world).1 := by
  cases runnable : Graph.requireRunnable nodes with
  | error cause =>
      have ended : engine.performFlow delay (some observer) nodes edges world =
          (FlowRun.start world.clock).abortIn (.unrunnable cause) world := by
        simp only [Engine.performFlow, runnable]
      rw [ended]
      exact ⟨_, rfl, FlowRun.reports_abort observer _ runnable world.clock world⟩
  | ok found =>
      have course := engine.course_performFlow delay (some observer) runnable edges world
      obtain ⟨trace, tells⟩ :=
        course.tells (Graph.order_distinct (Graph.startNode?_of_runnable runnable))
      obtain ⟨trace', told, fault?, observed⟩ := course.observed
      obtain rfl := List.append_cancel_left (tells.journal.symm.trans observed.journal)
      exact ⟨trace, tells.journal, observed.reports tells rfl rfl runnable⟩

/-- An objection to the bridge of a fused pair leaves the contract call out. -/
theorem Engine.performFlow_reports_objection :
    (Sample.engine.performFlow 0 (some (objector "b")) Sample.nodes Sample.edges
        (.fresh 0 ())).1.status = .failed ∧
    ∃ ended, (Sample.engine.performFlow 0 (some (objector "b")) Sample.nodes Sample.edges
        (.fresh 0 ())).1.outcomes =
      [⟨"b", true, none, none, none, 0⟩, ⟨"error", false, none, none, some "boom", ended⟩] := by
  obtain ⟨trace, journal, reports⟩ :=
    Sample.engine.performFlow_reports 0 (objector "b") Sample.nodes Sample.edges (.fresh 0 ())
  have told : recorded (Sample.engine.performFlow 0 (some (objector "b")) Sample.nodes Sample.edges
      (.fresh 0 ())).2.journal = [] ++ [⟨"b", true, none, none, none, 0⟩] := by decide +kernel
  rw [journal, World.fresh, List.nil_append] at told
  obtain ⟨status, outcomes, _⟩ :=
    reports.stopped [] _ [] (.raised .runtime "boom") told rfl
  exact ⟨status, outcomes⟩

end ChainFlow
