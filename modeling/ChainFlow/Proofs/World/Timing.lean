import ChainFlow.Proofs.Flow.Trace
import ChainFlow.Proofs.World.Inquiry
import Mathlib.Algebra.Ring.Int.Defs

/-!
# The time of a backend

Beside any backend a stopwatch can be put that adds up how long its answers take. It changes nothing
of what is performed (`matches_performStep`), and with it the clock can be accounted for: it moves on
by the pauses and by what the stopwatch shows, and by nothing else (`advances_of_touches`).
-/

namespace ChainFlow

variable {σ : Type}

/-- A backend with a stopwatch beside its state. -/
def Backend.timed (backend : Backend σ) : Backend (σ × Int) where
  isLive state := ((backend.isLive state.1).1, (backend.isLive state.1).2, state.2)
  user state := backend.user state.1
  answer call state := ((backend.answer call state.1).1, (backend.answer call state.1).2,
    state.2 + (backend.answer call state.1).1.elapsed)

namespace Trace

/-- How long a run waited between its steps, each time. -/
def pacings (trace : List Event) : List Int :=
  trace.filterMap fun
    | .paused (.pacing milliseconds) => some milliseconds
    | _ => none

/-- How long a run waited for transactions that were pretended, each time. -/
def latencies (trace : List Event) : List Int :=
  trace.filterMap fun
    | .paused (.latency milliseconds) => some milliseconds
    | _ => none

@[simp] theorem pacings_append (first second : List Event) :
    pacings (first ++ second) = pacings first ++ pacings second := List.filterMap_append

@[simp] theorem latencies_append (first second : List Event) :
    latencies (first ++ second) = latencies first ++ latencies second := List.filterMap_append

def waited (trace : List Event) : Int := (pacings trace).sum + (latencies trace).sum

@[simp] theorem waited_append (first second : List Event) :
    waited (first ++ second) = waited first + waited second := by
  simp only [waited, pacings_append, latencies_append, List.sum_append]
  omega

end Trace

namespace World

/-- A world with the stopwatch at zero. -/
def timed (world : World σ) : World (σ × Int) := { world with backend := (world.backend, 0) }

def untimed (world : World (σ × Int)) : World σ := { world with backend := world.backend.1 }

def spent (world : World (σ × Int)) : Int := world.backend.2

/-- Worlds that differ in the stopwatch only. -/
def Untimes (world : World (σ × Int)) (away : World σ) : Prop := world.untimed = away

/-- Between two worlds some events happened, and the clock has moved on by what was waited and what the
stopwatch went up. -/
structure Advances (before after : World (σ × Int)) (events : List Event) : Prop where
  journal : after.journal = before.journal ++ events
  clock_eq : after.clock = before.clock + Trace.waited events + (after.spent - before.spent)

theorem Advances.trans {before between after : World (σ × Int)} {first second : List Event}
    (here : Advances before between first) (there : Advances between after second) :
    Advances before after (first ++ second) := by
  refine ⟨by rw [there.journal, here.journal, List.append_assoc], ?_⟩
  rw [there.clock_eq, here.clock_eq, Trace.waited_append]
  omega

theorem advances_of_still {before after : World (σ × Int)} (journal : after.journal = before.journal)
    (clock_eq : after.clock = before.clock) (spent_eq : after.spent = before.spent) :
    Advances before after [] := by
  refine ⟨by rw [journal, List.append_nil], ?_⟩
  rw [clock_eq, spent_eq]
  simp [Trace.waited, Trace.pacings, Trace.latencies]

theorem advances_log (world : World (σ × Int)) {event : Event} (waits : Trace.waited [event] = 0) :
    Advances world (world.log event) [event] := by
  refine ⟨rfl, ?_⟩
  rw [waits]
  change world.clock = world.clock + 0 + (world.spent - world.spent)
  omega

theorem advances_pause (world : World (σ × Int)) (pause : Pause) :
    Advances world (world.pause pause) [.paused pause] := by
  refine ⟨rfl, ?_⟩
  have waits : Trace.waited [.paused pause] = pause.milliseconds := by
    cases pause <;> simp [Trace.waited, Trace.pacings, Trace.latencies, Pause.milliseconds]
  rw [waits]
  change world.clock + pause.milliseconds = _ + _ + (world.spent - world.spent)
  omega

end World

namespace Engine

open Act

def timed (engine : Engine σ) : Engine (σ × Int) :=
  { engine with backend := engine.backend.map Backend.timed }

variable (engine : Engine σ)

/-! ## What is performed beside a stopwatch -/

theorem probe_timed (world : World (σ × Int)) :
    engine.probe world.untimed = ((engine.timed.probe world).1, (engine.timed.probe world).2.untimed) := by
  unfold probe
  cases connected : engine.backend with
  | none => simp only [timed, connected, Option.map_none]
  | some backend => simp only [timed, connected, Option.map_some]; rfl

theorem matches_isLive : Matches World.Untimes engine.timed.isLive engine.isLive := by
  rintro world _ rfl
  have same := engine.probe_timed world
  unfold runIn isLive
  rw [same]
  exact ⟨rfl, rfl⟩

theorem matches_send (call : Call) :
    Matches World.Untimes (engine.timed.send call) (engine.send call) := by
  rintro world _ rfl
  unfold runIn send
  cases connected : engine.backend with
  | none =>
      simp only [timed, connected, Option.map_none]
      exact ⟨trivial, rfl⟩
  | some backend =>
      simp only [timed, connected, Option.map_some, Backend.timed, World.untimed]
      cases (backend.answer call world.backend.1).1.answer <;> exact ⟨rfl, rfl⟩

theorem matches_ask (purpose : Purpose) (request : Request) :
    Matches World.Untimes (engine.timed.ask purpose request) (engine.ask purpose request) := by
  intro world away untimes
  have user : engine.timed.userIn world = engine.userIn away := by
    unfold userIn
    rw [← untimes]
    cases connected : engine.backend <;> simp only [timed, connected, Option.map] <;> rfl
  change ((engine.timed.inquire purpose (.ok request)).runIn world).1 =
      ((engine.inquire purpose (.ok request)).runIn away).1 ∧
    World.Untimes ((engine.timed.inquire purpose (.ok request)).runIn world).2
      ((engine.inquire purpose (.ok request)).runIn away).2
  rw [runIn_inquire, runIn_inquire, user]
  cases (Except.ok request).bind (·.toCall purpose ((engine.userIn away).getD "")) with
  | ok call => exact engine.matches_send call world away untimes
  | error fault => exact ⟨rfl, untimes⟩

theorem matches_now : Matches World.Untimes (now : Act (σ × Int) Int) (now : Act σ Int) := by
  rintro world _ rfl
  exact ⟨rfl, rfl⟩

theorem matches_pretend (chain : ChainId) :
    Matches World.Untimes (engine.timed.pretend chain) (engine.pretend chain) := by
  have waits : Matches World.Untimes (wait (.latency engine.latency) : Act (σ × Int) Unit)
      (wait (.latency engine.latency) : Act σ Unit) := by
    rintro world _ rfl
    by_cases none : (Pause.latency engine.latency).milliseconds = 0
    · simp only [wait, runIn, if_pos none]
      exact ⟨trivial, rfl⟩
    · simp only [wait, runIn, if_neg none]
      exact ⟨trivial, rfl⟩
  have issues : Matches World.Untimes (issueHash : Act (σ × Int) String) (issueHash : Act σ String) := by
    rintro world _ rfl
    exact ⟨rfl, rfl⟩
  exact matches_bind waits fun _ => matches_bind issues fun _ => matches_pure _

theorem matches_pretended (id : String) (location : Location) :
    Matches World.Untimes (engine.timed.pretended id location) (engine.pretended id location) :=
  matches_bind (engine.matches_pretend _) fun _ => matches_bind matches_now fun _ => matches_pure _

theorem matches_ofReceipt (id : String) (receipt : Receipt) (failure : String) :
    Matches World.Untimes (ofReceipt id receipt failure : Act (σ × Int) Outcome)
      (ofReceipt id receipt failure : Act σ Outcome) :=
  matches_bind matches_now fun _ => matches_ite (matches_pure _) (matches_pure _)

theorem matches_askReceipt (request : Except Fault Request) :
    Matches World.Untimes (engine.timed.askReceipt request) (engine.askReceipt request) :=
  matches_bind (matches_ofExcept _) fun _ => matches_bind (engine.matches_ask _ _) fun _ =>
    matches_ofExcept _

/-- How every kind of node is performed: by the backend if one is live, and otherwise by pretending. -/
theorem matches_performed (id : String) (request : Except Fault Request) (failure : String)
    (location : Location) :
    Matches World.Untimes
      (do
        if ← engine.timed.isLive then ofReceipt id (← engine.timed.askReceipt request) failure
        else engine.timed.pretended id location)
      (do
        if ← engine.isLive then ofReceipt id (← engine.askReceipt request) failure
        else engine.pretended id location) :=
  matches_bind engine.matches_isLive fun _ => matches_ite
    (matches_bind (engine.matches_askReceipt _) fun _ => matches_ofReceipt _ _ _)
    (engine.matches_pretended _ _)

theorem matches_performCall (id : String) (call : ContractCall) (location : Location) :
    Matches World.Untimes (engine.timed.performCall id call location)
      (engine.performCall id call location) :=
  matches_ite (matches_bind (matches_throw _) fun _ => engine.matches_performed _ _ _ _)
    (engine.matches_performed _ _ _ _)

theorem matches_performFused (bridgeId : String) (bridge : Bridge) (callId : String)
    (call : ContractCall) (location : Location) :
    Matches World.Untimes (engine.timed.performFused bridgeId bridge callId call location)
      (engine.performFused bridgeId bridge callId call location) := by
  have receives (receipt : FusedReceipt) :
      Matches World.Untimes (ofFusedReceipt bridgeId callId receipt : Act (σ × Int) _)
        (ofFusedReceipt bridgeId callId receipt : Act σ _) :=
    matches_bind matches_now fun _ => matches_ite (matches_pure _) (matches_pure _)
  refine matches_ite (matches_bind (matches_throw _) fun _ => ?_) ?_
  all_goals
    refine matches_bind engine.matches_isLive fun _ => matches_ite ?_ (matches_throw _)
    exact matches_bind (matches_ofExcept _) fun _ => matches_bind (engine.matches_ask _ _) fun _ =>
      matches_bind (matches_ofExcept _) fun _ => receives _

theorem matches_performNode (node : Node) (location : Location) :
    Matches World.Untimes (engine.timed.performNode node location) (engine.performNode node location) := by
  unfold performNode
  split
  · exact matches_bind (engine.matches_performed _ _ _ _) fun _ => matches_pure _
  · exact matches_bind (engine.matches_performed _ _ _ _) fun _ => matches_pure _
  · exact matches_bind (engine.matches_performCall _ _ _) fun _ => matches_pure _
  · exact matches_bind matches_now fun _ => matches_pure _

theorem matches_performStep (step : FlowStep) (location : Location) :
    Matches World.Untimes (engine.timed.performStep step location) (engine.performStep step location) := by
  unfold performStep
  split
  · exact engine.matches_performNode _ _
  · split
    · exact matches_bind (engine.matches_performFused _ _ _ _ _) fun _ => matches_pure _
    · exact engine.matches_performNode _ _

theorem performStepSafely_timed (step : FlowStep) (location : Location) (world : World (σ × Int)) :
    engine.performStepSafely step location world.untimed =
      ((engine.timed.performStepSafely step location world).1,
        (engine.timed.performStepSafely step location world).2.untimed) := by
  obtain ⟨same, untimes⟩ := engine.matches_performStep step location world _ rfl
  unfold performStepSafely
  rcases ran : (engine.timed.performStep step location).runIn world with ⟨fault | outcomes, after⟩ <;>
    rcases ran' : (engine.performStep step location).runIn world.untimed with ⟨fault' | outcomes', after'⟩ <;>
    rw [ran, ran'] at same untimes <;> cases same <;> cases untimes <;> rfl

/-! ## What moves the clock -/

theorem advances_probe (world : World (σ × Int)) :
    World.Advances world (engine.timed.probe world).2 [] := by
  unfold probe
  cases connected : engine.backend <;> simp only [timed, connected, Option.map] <;>
    exact World.advances_of_still rfl rfl rfl

theorem advances_of_touch {before after : World (σ × Int)} (touch : Touch engine.timed before after) :
    ∃ events, World.Advances before after events ∧ ∀ event ∈ events, event.isOutside = true := by
  cases touch with
  | inside move =>
      cases move with
      | drew => exact ⟨[], World.advances_of_still rfl rfl rfl, by simp⟩
      | issued => exact ⟨[], World.advances_of_still rfl rfl rfl, by simp⟩
      | waited milliseconds =>
          exact ⟨_, World.advances_pause before (.latency milliseconds), by simp [Event.isOutside]⟩
  | probed => exact ⟨[], engine.advances_probe before, by simp⟩
  | asked call =>
      cases connected : engine.backend with
      | none =>
          refine ⟨[], ?_, by simp⟩
          have still : ((engine.timed.send call).runIn before).2 = before := by
            simp only [send, runIn, timed, connected, Option.map_none]
          rw [still]
          exact World.advances_of_still rfl rfl rfl
      | some backend =>
          have answered : ((engine.timed.send call).runIn before).2 =
              { (before.log (.sent call)).advance (backend.answer call before.backend.1).1.elapsed with
                backend := (backend.timed.answer call before.backend).2 } := by
            simp only [send, runIn, timed, connected, Option.map_some, Backend.timed]
            cases (backend.answer call before.backend.1).1.answer <;> rfl
          refine ⟨[.sent call], ?_, by simp [Event.isOutside]⟩
          rw [answered]
          -- What the stopwatch goes up by is what the answer took.
          refine ⟨rfl, ?_⟩
          change before.clock + (backend.answer call before.backend.1).1.elapsed = before.clock + 0 +
            (before.spent + (backend.answer call before.backend.1).1.elapsed - before.spent)
          omega

theorem advances_of_touches {before after : World (σ × Int)}
    (touches : Relation.ReflTransGen (Touch engine.timed) before after) :
    ∃ events, World.Advances before after events ∧ ∀ event ∈ events, event.isOutside = true := by
  induction touches with
  | refl => exact ⟨[], World.advances_of_still rfl rfl rfl, by simp⟩
  | tail _ touch ih =>
      obtain ⟨first, here, outside⟩ := ih
      obtain ⟨second, there, more⟩ := engine.advances_of_touch touch
      refine ⟨first ++ second, here.trans there, fun event member => ?_⟩
      exact (List.mem_append.mp member).elim (outside event) (more event)

end Engine

end ChainFlow
