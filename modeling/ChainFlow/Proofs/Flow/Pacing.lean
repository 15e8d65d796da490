import ChainFlow.Proofs.Flow.Faithful
import ChainFlow.Proofs.Sample
import ChainFlow.Proofs.World.Timing

/-!
# How a run is paced

With a delay between steps a run waits for it between one step and the next and at no other point. The
events of a run are those of its steps, each a `Stretch`, with one such pause from each to the next
(`Course.paced`). What the run has taken in the end is what it waited and what the answers of the
backend took, which a stopwatch beside the backend shows.
-/

namespace ChainFlow

open Trace

variable {σ : Type}

/-- Whether an event leads into a step: that it is begun, or the pause before that. -/
def Event.isOpening : Event → Bool
  | began _ => true
  | paused (.pacing _) => true
  | _ => false

theorem Event.not_isOpening_of_isOutside {event : Event} (outside : event.isOutside = true) :
    event.isOpening = false := by
  cases event with
  | paused pause => cases pause <;> first | rfl | cases outside
  | _ => first | rfl | cases outside

theorem Event.not_isOpening_of_isReport {event : Event} (report : event.isReport = true) :
    event.isOpening = false := by
  cases event <;> first | rfl | cases report

namespace Trace

/-- The events of one step. It is begun, and all of it, also where it takes two nodes at once, happens
before anything leads into another step. -/
structure Stretch (events : List Event) : Prop where
  begins : ∃ ids rest, events = .began ids :: rest ∧ (recorded rest).map (·.node) <+: ids ∧
    ∀ event ∈ rest, event.isOpening = false

theorem Stretch.append {events rest : List Event} (stretch : Stretch events)
    (unrecorded : recorded rest = []) (calm : ∀ event ∈ rest, event.isOpening = false) :
    Stretch (events ++ rest) := by
  obtain ⟨ids, own, rfl, initial, within_⟩ := stretch.begins
  refine ⟨ids, own ++ rest, rfl, ?_, fun event member => ?_⟩
  · rwa [recorded_append, unrecorded, List.append_nil]
  · exact (List.mem_append.mp member).elim (within_ event) (calm event)

theorem begun_of_calm {events : List Event} (calm : ∀ event ∈ events, event.isOpening = false) :
    begun events = [] ∧ pacings events = [] := by
  constructor <;>
  · refine List.filterMap_eq_nil_iff.mpr fun event member => ?_
    have own := calm event member
    cases event with
    | paused pause => cases pause <;> first | rfl | cases own
    | _ => first | rfl | cases own

theorem Stretch.begun_eq {events : List Event} (stretch : Stretch events) :
    (begun events).length = 1 ∧ pacings events = [] := by
  obtain ⟨ids, rest, rfl, _, calm⟩ := stretch.begins
  obtain ⟨noStep, noPause⟩ := begun_of_calm calm
  rw [begun_began, noStep]
  exact ⟨rfl, noPause⟩

/-- What a run does from some point on: the pause before each step, but not before the first of all. -/
def led (delay : Int) (first : Bool) (segments : List (List Event)) : List Event :=
  if first then [Event.paused (.pacing delay)].intercalate segments
  else segments.flatMap (.paused (.pacing delay) :: ·)

theorem intercalate_cons (event : Event) (segment : List Event) (segments : List (List Event)) :
    [event].intercalate (segment :: segments) = segment ++ segments.flatMap (event :: ·) := by
  induction segments generalizing segment with
  | nil => simp [List.intercalate]
  | cons next segments ih =>
      have rest := ih next
      simp only [List.intercalate] at rest ⊢
      rw [List.intersperse_cons_cons, List.flatten_cons, List.flatten_cons, rest]
      simp

theorem led_nil (delay : Int) (first : Bool) : led delay first [] = [] := by
  cases first <;> rfl

theorem led_cons (delay : Int) (first : Bool) (segment : List Event) (segments : List (List Event)) :
    led delay first (segment :: segments) =
      ((if first then [] else [.paused (.pacing delay)]) ++ segment) ++ led delay false segments := by
  cases first with
  | true => exact intercalate_cons _ segment segments
  | false => simp [led]

theorem counts_of_led (delay : Int) {segments : List (List Event)}
    (stretches : ∀ segment ∈ segments, Stretch segment) :
    (begun (led delay false segments)).length = segments.length ∧
      pacings (led delay false segments) = List.replicate segments.length delay := by
  induction segments with
  | nil => exact ⟨rfl, rfl⟩
  | cons segment segments ih =>
      rw [List.forall_mem_cons] at stretches
      obtain ⟨steps, pauses⟩ := ih stretches.2
      obtain ⟨own, none⟩ := stretches.1.begun_eq
      rw [led_cons]
      simp only [Bool.false_eq_true, reduceIte, begun_append, pacings_append, List.length_append, own,
        none, steps, pauses, List.length_cons, List.append_nil]
      refine ⟨Nat.add_comm _ _, rfl⟩

theorem pacings_intercalate (delay : Int) {segments : List (List Event)}
    (stretches : ∀ segment ∈ segments, Stretch segment) :
    pacings ([Event.paused (.pacing delay)].intercalate segments) = List.replicate
      ((begun ([Event.paused (.pacing delay)].intercalate segments)).length - 1) delay := by
  cases segments with
  | nil => rfl
  | cons segment segments =>
      rw [List.forall_mem_cons] at stretches
      obtain ⟨steps, pauses⟩ := counts_of_led delay stretches.2
      obtain ⟨own, none⟩ := stretches.1.begun_eq
      have opened : [Event.paused (.pacing delay)].intercalate (segment :: segments) =
          segment ++ led delay false segments := intercalate_cons _ _ _
      rw [opened, pacings_append, begun_append, List.length_append, own, none, steps, pauses,
        List.nil_append, Nat.add_sub_cancel_left]

end Trace

/-! ## One step -/

theorem FlowRun.recordAll_clock (observer : Option Observer) (run : FlowRun) (outcomes : List Outcome)
    (world : World σ) :
    (FlowRun.recordAll observer run outcomes world).2.2.clock = world.clock ∧
      (FlowRun.recordAll observer run outcomes world).2.1.started = run.started := by
  induction outcomes generalizing run world with
  | nil => exact ⟨rfl, rfl⟩
  | cons outcome outcomes ih =>
      unfold recordAll recordFor
      cases observer with
      | none => exact ih _ _
      | some observer =>
          dsimp only
          cases observer (world.log (.recorded outcome)).notices outcome with
          | some fault => exact ⟨rfl, rfl⟩
          | none => exact ih _ _

theorem FlowRun.advances_recordAll (observer : Option Observer) (run : FlowRun)
    (outcomes : List Outcome) (world : World (σ × Int)) : ∃ reports,
      World.Advances world (FlowRun.recordAll observer run outcomes world).2.2 reports ∧
      ∀ event ∈ reports, event.isReport = true := by
  obtain ⟨told, reports, telling⟩ := told_recordAll observer run outcomes world
  refine ⟨reports, ⟨telling.journal, ?_⟩, telling.isReport⟩
  have still : waited reports = 0 := by
    have noPacing := (begun_of_calm fun event member =>
      Event.not_isOpening_of_isReport (telling.isReport event member)).2
    have noLatency : latencies reports = [] := by
      refine List.filterMap_eq_nil_iff.mpr fun event member => ?_
      have report := telling.isReport event member
      cases event <;> first | rfl | cases report
    rw [waited, noPacing, noLatency]
    rfl
  rw [(FlowRun.recordAll_clock observer run outcomes world).1, still, World.spent, telling.backend_eq,
    World.spent]
  omega

namespace Engine

variable (engine : Engine σ) {delay : Int} {observer : Option Observer}

theorem advances_pace (some_ : delay ≠ 0) (first : Bool) (world : World (σ × Int)) :
    World.Advances world (pace delay first world)
      (if first then [] else [.paused (.pacing delay)]) := by
  cases first with
  | true => exact World.advances_of_still rfl rfl rfl
  | false =>
      have waits : pace delay false world = world.pause (.pacing delay) := by
        simp [pace, some_]
      rw [waits]
      exact World.advances_pause world (.pacing delay)

theorem started_recordedStep {τ : Type} (engine : Engine τ) (delay : Int)
    (observer : Option Observer) (first : Bool) (step : FlowStep) (location : Location) (run : FlowRun)
    (world : World τ) :
    (engine.recordedStep delay observer first step location run world).2.1.started = run.started :=
  (FlowRun.recordAll_clock observer (run.begin step.first.id) _ _).2

/-- The events of a step are a stretch, and before it is the pause between steps. -/
theorem advances_recordedStep (some_ : delay ≠ 0) (observer : Option Observer) {step : FlowStep}
    (isSound : step.IsSound) (first : Bool) (location : Location) (run : FlowRun)
    (world : World (σ × Int)) : ∃ segment,
    Stretch segment ∧
    World.Advances world (engine.timed.recordedStep delay observer first step location run world).2.2
      ((if first then [] else [.paused (.pacing delay)]) ++ segment) ∧
    ((engine.timed.recordedStep delay observer first step location run world).1 = none →
      (engine.timed.performedStep delay first step location world).1.all (·.success) = true →
      ∀ event ∈ segment, event.isFailure = false) := by
  obtain ⟨told, events, added⟩ :
      ∃ told events, Added step.ids (engine.timed.performedStep delay first step location world).1 run
        world (engine.timed.recordedStep delay observer first step location run world) told events :=
    added_by_step isSound first location run world
  have opening : World.Advances world (engine.timed.opened delay first step world)
      ((if first then [] else [.paused (.pacing delay)]) ++ [.began step.ids]) :=
    ((engine.advances_probe world).trans (advances_pace some_ first _)).trans
      (World.advances_log _ rfl)
  obtain ⟨outside, performing, isOutside⟩ := engine.advances_of_touches
    (engine.timed.touches_performStepSafely step location (engine.timed.opened delay first step world))
  obtain ⟨reports, telling, isReport⟩ := FlowRun.advances_recordAll observer (run.begin step.first.id)
    (engine.timed.performedStep delay first step location world).1
    (engine.timed.performedStep delay first step location world).2
  have advances := (opening.trans performing).trans telling
  simp only [List.append_assoc, List.cons_append, List.nil_append] at advances
  refine ⟨.began step.ids :: (outside ++ reports), ⟨step.ids, outside ++ reports, rfl, ?_, ?_⟩,
    advances, fun bore success => ?_⟩
  all_goals
    obtain rfl := List.append_cancel_left (added.journal.symm.trans advances.journal)
  · have own := added.segment.recorded_eq
    have unrecorded : recorded (if first then [] else [.paused (.pacing delay)]) = [] := by
      cases first <;> rfl
    rw [recorded_append, unrecorded, List.nil_append, recorded_began] at own
    rw [own]
    exact added.segment.nodes_initial
  · intro event member
    exact (List.mem_append.mp member).elim
      (fun isOut => Event.not_isOpening_of_isOutside (isOutside event isOut))
      (fun isRep => Event.not_isOpening_of_isReport (isReport event isRep))
  · have calm := no_failure_of_success (by
      rw [added.segment.recorded_eq, added.all bore]
      exact List.all_eq_true.mp success) added.segment.aborts_eq
    exact fun event member => calm event (List.mem_append_right _ member)

/-! ## All steps -/

/-- What a run that has come to an end is from some point on: its steps with the pauses between them,
of which only the last may have failed, and the time that they took. -/
structure PacedFrom (delay : Int) (first : Bool) (run : FlowRun) (world : World (σ × Int))
    (result : FlowRun × World (σ × Int)) (segments : List (List Event)) : Prop where
  stretches : ∀ segment ∈ segments, Stretch segment
  calm : ∀ segment ∈ segments.dropLast, ∀ event ∈ segment, event.isFailure = false
  advances : World.Advances world result.2 (led delay first segments)
  ended_eq : result.1.ended = some result.2.clock
  started_eq : result.1.started = run.started

theorem Course.paced (some_ : delay ≠ 0) {first : Bool} {plan : Plan} {location : Location}
    {run : FlowRun} {world : World (σ × Int)} {result : FlowRun × World (σ × Int)}
    (course : engine.timed.Course delay observer first plan location run world result) :
    ∃ segments, PacedFrom delay first run world result segments := by
  -- The pause before a step stands outside its segment: `led` puts it back, but for the first of all.
  induction course with
  | exhausted _ _ =>
      refine ⟨[], by simp, by simp, ?_, rfl, rfl⟩
      rw [led_nil]
      exact engine.advances_probe _
  | @aborted first plan handed done step location run run' world world' fault steps answer =>
      obtain ⟨segment, stretch, advances, _⟩ := engine.advances_recordedStep some_ observer
        steps.issues.isSound first location run world
      have started := started_recordedStep engine.timed delay observer first step location run
        world
      rw [answer] at advances started
      refine ⟨[segment ++ [.aborted fault]], ?_, by simp, ?_, rfl, started⟩
      · exact List.forall_mem_singleton.mpr (stretch.append rfl (by simp [Event.isOpening]))
      · rw [led_cons, led_nil, List.append_nil, ← List.append_assoc]
        exact advances.trans (World.advances_log world' rfl)
  | @failed first plan handed done step location run run' world world' steps answer failure =>
      obtain ⟨segment, stretch, advances, _⟩ := engine.advances_recordedStep some_ observer
        steps.issues.isSound first location run world
      have started := started_recordedStep engine.timed delay observer first step location run
        world
      rw [answer] at advances started
      refine ⟨[segment], List.forall_mem_singleton.mpr stretch, by simp, ?_, rfl, started⟩
      rw [led_cons, led_nil, List.append_nil]
      exact advances
  | @went first plan handed done step location run run' world world' result steps answer success _ ih =>
      obtain ⟨segment, stretch, advances, calm⟩ := engine.advances_recordedStep some_ observer
        steps.issues.isSound first location run world
      have started := started_recordedStep engine.timed delay observer first step location run
        world
      rw [answer] at advances started calm
      obtain ⟨segments, paced⟩ := ih
      refine ⟨segment :: segments, List.forall_mem_cons.mpr ⟨stretch, paced.stretches⟩, ?_, ?_,
        paced.ended_eq, paced.started_eq.trans started⟩
      · rcases segments with _ | ⟨next, segments⟩
        · simp
        · rw [List.dropLast_cons_cons, List.forall_mem_cons]
          exact ⟨calm rfl success, paced.calm⟩
      · rw [led_cons]
        exact advances.trans paced.advances

/-! ## The same run without a stopwatch -/

theorem recordAll_timed (observer : Option Observer) (run : FlowRun) (outcomes : List Outcome)
    (world : World (σ × Int)) : FlowRun.recordAll observer run outcomes world.untimed =
      ((FlowRun.recordAll observer run outcomes world).1,
        (FlowRun.recordAll observer run outcomes world).2.1,
        (FlowRun.recordAll observer run outcomes world).2.2.untimed) := by
  induction outcomes generalizing run world with
  | nil => rfl
  | cons outcome outcomes ih =>
      unfold FlowRun.recordAll FlowRun.recordFor
      cases observer with
      | none => exact ih _ (world.log (.recorded outcome))
      | some observer =>
          -- What an observer objects to is decided by the journal, which the stopwatch leaves alone.
          have heard : (world.untimed.log (.recorded outcome)).notices =
              (world.log (.recorded outcome)).notices := rfl
          dsimp only
          rw [heard]
          cases observer (world.log (.recorded outcome)).notices outcome with
          | some fault => rfl
          | none => exact ih _ ((world.log (.recorded outcome)).log (.notified outcome))

theorem performSteps_timed (delay : Int) (observer : Option Observer) (fuel : Nat) (first : Bool)
    (plan : Plan) (location : Location) (run : FlowRun) (world : World (σ × Int)) :
    engine.performSteps delay observer fuel first plan location run world.untimed =
      ((engine.timed.performSteps delay observer fuel first plan location run world).1,
        (engine.timed.performSteps delay observer fuel first plan location run world).2.untimed) := by
  induction fuel generalizing first plan location run world with
  | zero => rfl
  | succ fuel ih =>
      unfold performSteps
      rw [engine.probe_timed world]
      rcases engine.timed.probe world with ⟨live, probed⟩
      dsimp only
      rcases plan.next live with ⟨fault | _ | step, handed⟩
      · rfl
      · rfl
      · have opened : (pace delay first probed.untimed).log (.began step.ids) =
            ((pace delay first probed).log (.began step.ids)).untimed := by
          unfold pace
          split <;> rfl
        dsimp only
        rw [opened, engine.performStepSafely_timed]
        rcases engine.timed.performStepSafely step location
          ((pace delay first probed).log (.began step.ids)) with ⟨outcomes, after⟩
        dsimp only
        rw [recordAll_timed]
        rcases FlowRun.recordAll observer (run.begin step.first.id) outcomes after with
          ⟨_ | fault, run', told⟩
        · rcases handed.complete step with ⟨fault | _, done⟩
          · rfl
          · dsimp only
            cases outcomes.all (·.success) with
            | true => exact ih _ _ _ _ _
            | false => rfl
        · rfl

theorem performFlow_timed (delay : Int) (observer : Option Observer) (nodes : List Node)
    (edges : List Edge) (world : World σ) : engine.performFlow delay observer nodes edges world =
      ((engine.timed.performFlow delay observer nodes edges world.timed).1,
        (engine.timed.performFlow delay observer nodes edges world.timed).2.untimed) := by
  unfold performFlow
  cases Graph.requireRunnable nodes with
  | error cause => rfl
  | ok found => exact engine.performSteps_timed _ _ _ _ _ _ _ world.timed

end Engine

/-- How a run with a delay between its steps is paced, and what its time is made of, where the answers of
the backend took some time together. -/
structure FlowRun.Paced (delay answering : Int) (nodes : List Node) (trace : List Event)
    (run : FlowRun) : Prop where
  /-- A run is its steps, with one pause from each to the next and none elsewhere. A step that fails is
  the last. -/
  parted : ∃ segments, (∀ segment ∈ segments, Stretch segment) ∧
    (∀ segment ∈ segments.dropLast, ∀ event ∈ segment, event.isFailure = false) ∧
    trace = match Graph.requireRunnable nodes with
      | .error cause => [.aborted (.unrunnable cause)]
      | .ok _ => [Event.paused (.pacing delay)].intercalate segments
  pacings_eq : pacings trace = List.replicate ((begun trace).length - 1) delay
  ended_eq : run.ended =
    some (run.started + (pacings trace).sum + (latencies trace).sum + answering)

/-- Whatever a backend does and whatever an observer objects to, pauses come between steps only and
account for the time of a run, together with those for pretended transactions and with the answers of the
backend. These are timed by a stopwatch with which the run is the same. -/
theorem Engine.performFlow_paced (engine : Engine σ) {delay : Int} (some_ : delay ≠ 0)
    (observer : Option Observer) (nodes : List Node) (edges : List Edge) (world : World σ) :
    ∃ trace timed, engine.timed.performFlow delay observer nodes edges world.timed =
        ((engine.performFlow delay observer nodes edges world).1, timed) ∧
      timed.untimed = (engine.performFlow delay observer nodes edges world).2 ∧
      timed.journal = world.journal ++ trace ∧
      FlowRun.Paced delay timed.spent nodes trace
        (engine.performFlow delay observer nodes edges world).1 := by
  have same := engine.performFlow_timed delay observer nodes edges world
  cases runnable : Graph.requireRunnable nodes with
  | error cause =>
      have ended : engine.timed.performFlow delay observer nodes edges world.timed =
          (FlowRun.start world.clock).abortIn (.unrunnable cause) world.timed := by
        simp only [performFlow, runnable]
        rfl
      rw [same, ended]
      refine ⟨[.aborted (.unrunnable cause)], _, rfl, rfl, rfl, ⟨[], by simp, by simp, ?_⟩, rfl, ?_⟩
      · rw [runnable]
      · change some world.clock = some (world.clock + 0 + 0 + 0)
        simp only [Int.add_zero]
  | ok found =>
      obtain ⟨node, start⟩ := found
      have course := engine.timed.course_performFlow delay observer runnable edges world.timed
      obtain ⟨segments, paced⟩ := Course.paced engine some_ course
      rw [same]
      refine ⟨_, _, rfl, rfl, paced.advances.journal, ⟨segments, paced.stretches, paced.calm, ?_⟩,
        pacings_intercalate delay paced.stretches, ?_⟩
      · rw [runnable]
        rfl
      · rw [paced.ended_eq, paced.started_eq, paced.advances.clock_eq]
        refine congrArg some ?_
        change world.clock + (_ + _) + (_ - 0) = world.clock + _ + _ + _
        rw [Int.sub_zero, ← Int.add_assoc]
        rfl

/-- A backend that is live until it has answered once. -/
def Sample.fading : Backend Nat where
  isLive state := (state == 0, state)
  user _ := some "0xuser"
  answer _ state := (⟨.ok (.obj [("success", .bool true)]), 40⟩, state + 1)

def Sample.fadingEngine : Engine Nat where
  backend := some Sample.fading
  vaults := Vaults.standard
  bridgeCost := .finite false 25 (-1)
  latency := 250
  explorer := none
  draw _ := .zero false

/-- A bridge and a contract call are sent as one, and the transfer after them is pretended. -/
theorem Engine.performFlow_paced_fading :
    (1000 : Int) ≠ 0 ∧ ∃ trace answering,
      (Sample.fadingEngine.performFlow 1000 none Sample.nodes Sample.edges (.fresh 5 0)).2.journal =
        trace ∧
      FlowRun.Paced 1000 answering Sample.nodes trace
        (Sample.fadingEngine.performFlow 1000 none Sample.nodes Sample.edges (.fresh 5 0)).1 ∧
      (Sample.fadingEngine.performFlow 1000 none Sample.nodes Sample.edges (.fresh 5 0)).1.ended =
        some (5 + 1000 + 250 + 40) := by
  have some_ : (1000 : Int) ≠ 0 := by decide
  obtain ⟨trace, timed, _, same, journal, paced⟩ :=
    Sample.fadingEngine.performFlow_paced some_ none Sample.nodes Sample.edges (.fresh 5 0)
  refine ⟨some_, trace, timed.spent, ?_, paced, by decide +kernel⟩
  rw [← same]
  exact journal

end ChainFlow
