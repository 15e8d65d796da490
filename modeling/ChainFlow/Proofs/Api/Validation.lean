import ChainFlow.Proofs.Api.Session
import ChainFlow.Proofs.Flow.Closing
import ChainFlow.Proofs.Graph.Alike
import ChainFlow.Proofs.Graph.Checking

/-!
# What the service calls valid

The service answers that a drawing is valid exactly if it is sound and there is an action in it
(`answer_validate`). Nothing is wrong with running such a drawing: a dry run does not refuse it, and the
record of a run has nothing but what its steps came to (`undertakes_of_runnable`).
-/

namespace ChainFlow

open Trace

/-! ## What can be run -/

theorem Graph.runnable_iff {nodes : List Node} (starts : nodes.countP Node.isStart = 1) :
    (∃ found, requireRunnable nodes = .ok found) ↔ ∃ node ∈ nodes, node.isAction = true := by
  obtain ⟨start, found⟩ : ∃ start, startNode? nodes = some start := by
    rw [← Option.isSome_iff_exists, startNode?, List.find?_isSome]
    exact List.countP_pos_iff.mp (by omega)
  obtain ⟨location, isStart⟩ := start?_of_startNode? found
  rw [requireRunnable_of_startNode? found, isStart, ← List.any_eq_true]
  change _ ↔ hasAction nodes = true
  cases hasAction nodes <;> simp

/-- Whether a fault says that a drawing cannot be run as it is. -/
def Fault.IsOfDrawing : Fault → Prop
  | unrunnable _ | illFormed .. => True
  | _ => False

namespace Engine

variable {σ : Type} {engine : Engine σ} {graph : Graph}

/-- Whether a dry run never refuses a drawing, and the record of a run without an observer holds nothing
but what was recorded for its steps. -/
structure Undertakes (engine : Engine σ) (graph : Graph) : Prop where
  quoted : ∀ rate world fault,
    (engine.quoteFlow rate graph.nodes graph.edges world).1 = .error fault → ¬fault.IsOfDrawing
  performed : ∀ delay world, ∃ trace,
    (engine.performFlow delay none graph.nodes graph.edges world).2.journal = world.journal ++ trace ∧
    aborts trace = [] ∧
    (engine.performFlow delay none graph.nodes graph.edges world).1.outcomes = recorded trace

theorem undertakes_of_runnable {found : Node × Start}
    (runnable : Graph.requireRunnable graph.nodes = .ok found) : engine.Undertakes graph := by
  constructor
  · intro rate world fault failed
    obtain ⟨result, quoting, -⟩ := engine.survey_quoteFlow rate runnable graph.edges world
    rw [quoting] at failed
    obtain ⟨signal, rfl⟩ := Tally.fault_of_build failed
    exact id
  · intro delay world
    have course := engine.course_performFlow delay none runnable graph.edges world
    obtain ⟨trace, tells⟩ :=
      course.tells (Graph.order_distinct (Graph.startNode?_of_runnable runnable))
    have quiet := course.aborts_eq
    rw [tells.journal, aborts_append, List.append_right_eq_self] at quiet
    obtain ⟨ended, -, record⟩ := tells.record
    rw [quiet] at record
    exact ⟨trace, tells.journal, quiet, record.trans (List.append_nil _)⟩

end Engine

namespace Api

/-! ## What is answered -/

/-- Whether an answer says that a drawing is valid. -/
def Answer.SaysValid (answer : Answer) : Prop :=
  ∃ fields, answer.content = .json (.obj fields) ∧ Fields.get? fields "valid" = some (.bool true)

theorem Answer.not_saysValid_detail (status : Nat) (detail : Json) :
    ¬(Answer.detail status detail).SaysValid := by
  rintro ⟨fields, shown, valid⟩
  unfold Answer.detail Answer.json at shown
  split at shown
  · cases shown
    cases valid
  · cases shown

theorem Answer.not_saysValid_refused (refusal : Refusal) : ¬(Answer.refused refusal).SaysValid := by
  unfold Answer.refused
  split
  · exact not_saysValid_detail _ _
  · split
    · exact not_saysValid_detail _ _
    · rintro ⟨fields, shown, -⟩
      cases shown

namespace Service

variable {σ : Type}

/-- The issues that are answered for a drawing: those of its structure, and that it cannot be run. -/
def verdict (graph : Graph) (issues : List String) : List String :=
  match Graph.requireRunnable graph.nodes with
  | .ok _ => issues
  | .error cause => if issues.contains cause.message then issues else issues ++ [cause.message]

theorem verdict_eq_nil_iff {graph : Graph} {issues : List String} :
    verdict graph issues = [] ↔
      issues = [] ∧ ∃ found, Graph.requireRunnable graph.nodes = .ok found := by
  unfold verdict
  cases Graph.requireRunnable graph.nodes with
  | ok found => simp
  | error cause =>
      dsimp only
      split
      · next known =>
        constructor
        · rintro rfl
          cases known
        · rintro ⟨-, found, impossible⟩
          cases impossible
      · simp

theorem saysValid_validate_iff (graph : Graph) : (validate graph).SaysValid ↔
    Graph.issues graph.nodes graph.edges = .ok [] ∧
      ∃ found, Graph.requireRunnable graph.nodes = .ok found := by
  have answers : validate graph = orInternal (fun issues => .json 200 (.obj [
      ("valid", .bool (verdict graph issues).isEmpty),
      ("issues", .arr ((verdict graph issues).map .str))])) (Graph.issues graph.nodes graph.edges) :=
    rfl
  rw [answers]
  cases Graph.issues graph.nodes graph.edges with
  | error fault =>
      constructor
      · rintro ⟨fields, shown, -⟩
        cases shown
      · rintro ⟨impossible, -⟩
        cases impossible
  | ok issues =>
      rw [Except.ok.injEq, ← verdict_eq_nil_iff]
      constructor
      · rintro ⟨fields, shown, valid⟩
        unfold orInternal Answer.json at shown
        dsimp only at shown
        split at shown
        · cases shown
          simpa [Json.finiteFields, Fields.get?_cons, Json.finite] using valid
        · cases shown
      · intro none
        unfold orInternal
        dsimp only
        rw [none]
        exact ⟨_, rfl, rfl⟩

theorem answer_validate (service : Service σ) (body : Body) (state : State σ) :
    (service.answer "POST" "/flows/validate" body state).1.SaysValid ↔
      ∃ graph, body.read readGraph = .ok graph ∧ graph.IsSound ∧
        ∃ node ∈ graph.nodes, node.isAction = true := by
  have leads : route "POST" "/flows/validate" = .endpoint .validate := by decide +kernel
  rw [answer_of_route leads, atEndpoint, withBody]
  cases body.read readGraph with
  | error refusal =>
      constructor
      · intro valid
        exact absurd valid (Answer.not_saysValid_refused refusal)
      · rintro ⟨graph, impossible, -⟩
        cases impossible
  | ok graph =>
      simp only [Except.ok.injEq, exists_eq_left', saysValid_validate_iff, Graph.issues_eq_nil_iff]
      exact and_congr_right fun sound => Graph.runnable_iff sound.start

/-- Checking a drawing gives no issues exactly if it is sound, and the service calls a drawing valid
exactly if it is sound and there is an action in it. Such a drawing is neither refused nor does a run of
it come to an end by a fault. -/
theorem validity_agrees :
    (∀ graph : Graph, Graph.issues graph.nodes graph.edges = .ok [] ↔ graph.IsSound) ∧
    (∀ (service : Service σ) (body : Body) (state : State σ),
      (service.answer "POST" "/flows/validate" body state).1.SaysValid ↔
        ∃ graph, body.read readGraph = .ok graph ∧ graph.IsSound ∧
          ∃ node ∈ graph.nodes, node.isAction = true) ∧
    ∀ (engine : Engine σ) (graph : Graph), graph.IsSound →
      (∃ node ∈ graph.nodes, node.isAction = true) → engine.Undertakes graph := by
  refine ⟨Graph.issues_eq_nil_iff, answer_validate, fun engine graph sound acts => ?_⟩
  obtain ⟨found, runnable⟩ := (Graph.runnable_iff sound.start).mpr acts
  exact Engine.undertakes_of_runnable runnable

theorem validity_agrees_looped :
    Graph.issues Graph.looped.nodes Graph.looped.edges = .ok [] ∧
      Sample.engine.Undertakes Graph.looped := by
  have unreported : Graph.issues Graph.looped.nodes Graph.looped.edges = .ok [] := rfl
  have acts : ∃ node ∈ Graph.looped.nodes, node.isAction = true :=
    ⟨Sample.bridge "b" 11155111 "5", List.mem_cons_of_mem _ List.mem_cons_self, rfl⟩
  obtain ⟨sound_iff, -, undertakes⟩ := validity_agrees (σ := Unit)
  exact ⟨unreported, undertakes Sample.engine Graph.looped ((sound_iff _).mp unreported) acts⟩

end Service

end Api

end ChainFlow
