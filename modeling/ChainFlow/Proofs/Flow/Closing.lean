import ChainFlow.Proofs.Flow.DryRun
import ChainFlow.Proofs.Flow.Faithful
import ChainFlow.Proofs.World.Inquiry

/-!
# When a run closes with a fault

A run without an observer closes with the outcome of a fault only if there is nothing to run: the plan
of a flow never comes to a fault, whatever the drawing is like, and those of a step are outcomes of its
nodes. A dry run has no other faults than these but that of a total too long to be written.
-/

namespace ChainFlow

open Trace

variable {σ : Type}

theorem FlowRun.recordAll_none (run : FlowRun) (outcomes : List Outcome) (world : World σ) :
    (FlowRun.recordAll none run outcomes world).1 = none := by
  induction outcomes generalizing run world with
  | nil => rfl
  | cons outcome outcomes ih => exact ih _ _

theorem Fault.messageOr_unrunnable (cause : Unrunnable) (otherwise : String) :
    (Fault.unrunnable cause).messageOr otherwise = cause.message := by
  cases cause <;> rfl

theorem Tally.fault_of_build {tally : Tally} {rate : Binary64} {fault : Fault}
    (failed : tally.build rate = .error fault) : ∃ signal, fault = .arithmetic signal := by
  unfold Tally.build at failed
  cases rounded : Decimal.quantize .halfEven tally.cost (-2) with
  | error signal =>
      rw [rounded] at failed
      cases failed
      exact ⟨signal, rfl⟩
  | ok cost =>
      rw [rounded] at failed
      cases failed

namespace Engine

variable {engine : Engine σ} {delay : Int}

theorem aborts_of_recordedStep {first : Bool} {step : FlowStep} (isSound : step.IsSound)
    {location : Location} {run : FlowRun} {world : World σ} {answer : Option Fault × FlowRun × World σ}
    (recording : engine.recordedStep delay none first step location run world = answer) :
    answer.1 = none ∧ aborts answer.2.2.journal = aborts world.journal := by
  obtain ⟨told, events, added⟩ := added_by_step isSound first location run world
  rw [recording] at added
  refine ⟨?_, ?_⟩
  · rw [← recording, recordedStep, FlowRun.recordAll_none]
  · rw [added.journal, aborts_append, added.segment.aborts_eq, List.append_nil]

theorem Course.aborts_eq {first : Bool} {plan : Plan} {location : Location} {run : FlowRun}
    {world : World σ} {result : FlowRun × World σ}
    (course : engine.Course delay none first plan location run world result) :
    aborts result.2.journal = aborts world.journal := by
  induction course with
  | exhausted _ _ => rw [probe_journal]
  | aborted steps answer => cases (aborts_of_recordedStep steps.issues.isSound answer).1
  | failed steps answer _ => exact (aborts_of_recordedStep steps.issues.isSound answer).2
  | went steps answer _ _ ih => exact ih.trans (aborts_of_recordedStep steps.issues.isSound answer).2

/-- How a run without an observer closes, and how a dry run does. -/
structure Closes (engine : Engine σ) (delay : Int) (rate : Binary64) (nodes : List Node)
    (edges : List Edge) (world : World σ) : Prop where
  /-- The outcomes of a run are those of its steps, and one for the fault that ends it. Only that there
  is nothing to run is such a fault. -/
  record : ∃ trace ended,
    (engine.performFlow delay none nodes edges world).2.journal = world.journal ++ trace ∧
    (engine.performFlow delay none nodes edges world).1.outcomes =
      recorded trace ++ (aborts trace).map (FlowRun.faultOutcome · ended) ∧
    aborts trace = match Graph.requireRunnable nodes with
      | .error cause => [.unrunnable cause]
      | .ok _ => []
  unrunnable : ∀ cause, Graph.requireRunnable nodes = .error cause →
    (engine.performFlow delay none nodes edges world).1.outcomes =
      [⟨"error", false, none, none, some cause.message, world.clock⟩] ∧
    (engine.performFlow delay none nodes edges world).1.current = none ∧
    (engine.performFlow delay none nodes edges world).2.calls = world.calls ∧
    engine.quoteFlow rate nodes edges world = (.error (.unrunnable cause), world)
  quoted : ∀ fault, (engine.quoteFlow rate nodes edges world).1 = .error fault →
    (∃ cause, Graph.requireRunnable nodes = .error cause ∧ fault = .unrunnable cause) ∨
      ∃ signal, fault = .arithmetic signal

end Engine

end ChainFlow
