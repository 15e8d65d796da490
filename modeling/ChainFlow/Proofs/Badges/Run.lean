import ChainFlow.Proofs.Badges.Setting
import ChainFlow.Proofs.Flow.Audit
import ChainFlow.Proofs.Flow.Faithful
import ChainFlow.Proofs.Graph.Alike

/-!
# What badges tell of a run

After a run an action shows how its own step was recorded, and what is no action is as it was drawn. The
one exception is a node that has the id under which the fault of a run is recorded: once such a fault is
there, the node shows a failure, whatever it is and whatever was recorded for it.
-/

namespace ChainFlow

open Trace

variable {σ : Type}

/-! ## What is known of a run -/

namespace Engine

/-- The events of any run of a flow. The ids of its steps are distinct, and each is that of an action. -/
theorem tells_performFlow (engine : Engine σ) (delay : Int) (observer : Option Observer)
    (nodes : List Node) (edges : List Edge) (world : World σ) :
    ∃ ids trace, Tells ids (FlowRun.start world.clock) world
        (engine.performFlow delay observer nodes edges world) trace ∧
      ids.Nodup ∧ ∀ id ∈ ids, ∃ node ∈ nodes, node.isAction = true ∧ node.id = id := by
  cases runnable : Graph.requireRunnable nodes with
  | error cause =>
      have ended : engine.performFlow delay observer nodes edges world =
          (FlowRun.start world.clock).abortIn (.unrunnable cause) world := by
        simp only [performFlow, runnable]
      rw [ended]
      exact ⟨[], _, tells_abort [] _ _ _, List.nodup_nil, List.forall_mem_nil _⟩
  | ok found =>
      have starts := Graph.startNode?_of_runnable runnable
      have distinct : ((Graph.order nodes edges).map (·.id)).Nodup := Graph.order_distinct starts
      obtain ⟨trace, tells⟩ :=
        (engine.course_performFlow delay observer runnable edges world).tells distinct
      refine ⟨_, trace, tells, ?_, fun id member => ?_⟩
      · exact distinct.sublist (List.filter_sublist.map _)
      · obtain ⟨node, isOrdered, rfl⟩ := List.mem_map.mp member
        obtain ⟨ordered, acts⟩ := List.mem_filter.mp isOrdered
        have drawn := Graph.node?_mem (Graph.node?_of_mem_order starts ordered)
        exact ⟨node, drawn, acts, rfl⟩

end Engine

namespace Badge

/-- Whether a step of a node was begun and recorded, with success or without. -/
def RecordedAs (trace : List Event) (node : Node) (success : Bool) : Prop :=
  node.id ∈ (begun trace).flatten ∧
    ∃ outcome ∈ recorded trace, outcome.node = node.id ∧ outcome.success = success

/-- Whether a fault ended the run that is recorded under the id of a node, but not because a step of the
node failed. -/
def Eclipsed (trace : List Event) (node : Node) : Prop :=
  (node.id = FlowRun.faultNode ∧ aborts trace ≠ []) ∧
    ¬(node.isAction = true ∧ RecordedAs trace node false)

/-- Whether a node shows what became of it, and is otherwise what it was. -/
structure Truthful (trace : List Event) (node shown : Node) : Prop where
  outside : node.SameOutside shown
  fields : ∀ name, name ≠ "status" → shown.field? name = node.field? name
  passive : node.isAction = false → shown = node
  completed : node.isAction = true → (shown.Shows .completed ↔ RecordedAs trace node true)
  failed : node.isAction = true → (shown.Shows .failed ↔ RecordedAs trace node false)
  pending : node.isAction = true →
    (shown.Shows .pending ↔ ∀ success, ¬RecordedAs trace node success)

structure Badged (trace : List Event) (node shown : Node) : Prop where
  truthful : ¬Eclipsed trace node → Truthful trace node shown
  eclipsed : Eclipsed trace node → shown = node.withBadge .failed

/-! ## One node -/

/-- The badge of an action for what was recorded, if anything was. -/
def ofRecord : Option Bool → Badge
  | some true => .completed
  | some false => .failed
  | none => .pending

theorem truthful_of_record {trace : List Event} {node : Node} (acts : node.isAction = true)
    {record : Option Bool}
    (isRecord : ∀ success, RecordedAs trace node success ↔ record = some success) :
    Truthful trace node (node.withBadge (ofRecord record)) where
  outside := node.sameOutside_withBadge _
  fields name other := by rw [Node.withBadge, Node.field?_set, if_neg other]
  passive idle := by simp [acts] at idle
  completed _ := by
    rw [Node.shows_withBadge_iff, isRecord]
    rcases record with _ | _ | _ <;> simp [ofRecord]
  failed _ := by
    rw [Node.shows_withBadge_iff, isRecord]
    rcases record with _ | _ | _ <;> simp [ofRecord]
  pending _ := by
    simp only [Node.shows_withBadge_iff, isRecord]
    rcases record with _ | _ | _ <;> simp [ofRecord]

theorem truthful_of_passive {trace : List Event} {node : Node} (idle : node.isAction = false) :
    Truthful trace node node where
  outside := .refl node
  fields _ _ := rfl
  passive _ := rfl
  completed acts := by simp [idle] at acts
  failed acts := by simp [idle] at acts
  pending acts := by simp [idle] at acts

section

variable {ids : List String} {status : RunStatus} {trace : List Event}

/-- What the events of a run say of a node. -/
def record? (trace : List Event) (node : Node) : Option Bool :=
  ((recorded trace).reverse.find? (·.node == node.id)).map (·.success)

theorem recordedAs_iff (sound : Sound ids status trace) (distinct : ids.Nodup) (node : Node)
    (success : Bool) : RecordedAs trace node success ↔ record? trace node = some success := by
  have recordedIds := sound.recorded_initial.trans sound.begun_initial
  have single : ((recorded trace).map (·.node)).Nodup := distinct.sublist recordedIds.sublist
  simp only [record?, Option.map_eq_some_iff, find?_reverse_eq_some_iff single, RecordedAs,
    and_assoc]
  constructor
  · exact fun told => told.2
  · rintro ⟨outcome, member, own, success⟩
    have began := sound.recorded_initial.subset (List.mem_map_of_mem member)
    exact ⟨own ▸ began, outcome, member, own, success⟩

end

/-! ## What shows -/

section

variable {run : FlowRun} {trace : List Event} {ended : Int} {node : Node}
  (closed : run.status = .completed ∨ run.status = .failed)
  (record : run.outcomes = recorded trace ++ (aborts trace).map (FlowRun.faultOutcome · ended))

include closed

theorem inRun?_of_closed (id : String) :
    inRun? run id = (run.outcomes.reverse.find? (·.node == id)).map ofOutcome := by
  have isOver : run.status ≠ .executing := by
    rcases closed with completed | failed
    · simp [completed]
    · simp [failed]
  unfold inRun?
  cases run.outcomes.reverse.find? (·.node == id) with
  | some outcome => rfl
  | none => exact if_neg fun goesOn => isOver goesOn.1

include record

theorem showRun_of_fault (isFault : node.id = FlowRun.faultNode ∧ aborts trace ≠ []) :
    showRun run node = node.withBadge .failed := by
  obtain ⟨faults, fault, last⟩ := List.eq_nil_or_concat (aborts trace) |>.resolve_left isFault.2
  have found : run.outcomes.reverse.find? (·.node == node.id) =
      some (FlowRun.faultOutcome fault ended) := by
    simp [record, last, isFault.1, FlowRun.faultOutcome]
  rw [showRun, inRun?_of_closed closed, found]
  rfl

theorem showRun_of_record (noFault : ¬(node.id = FlowRun.faultNode ∧ aborts trace ≠ [])) :
    showRun run node = if node.isAction ∨ record? trace node ≠ none then
      node.withBadge (ofRecord (record? trace node)) else node := by
  have absent : ((aborts trace).map (FlowRun.faultOutcome · ended)).reverse.find? (·.node == node.id) =
      none := by
    rw [← Option.not_isSome_iff_eq_none, isSome_find?_reverse]
    intro member
    obtain ⟨fault, isFault, same⟩ := List.mem_map.mp (List.map_map ▸ member)
    exact noFault ⟨same.symm, List.ne_nil_of_mem isFault⟩
  rw [showRun, inRun?_of_closed closed, record, List.reverse_append, List.find?_append, absent,
    Option.none_or, record?]
  cases (recorded trace).reverse.find? (·.node == node.id) with
  | none => cases node.isAction <;> rfl
  | some outcome => cases success : outcome.success <;> simp [ofOutcome, ofRecord, success]

end

theorem badged_showRun {ids : List String} {run : FlowRun} {before after : World σ} {now : Int}
    {trace : List Event} {node : Node}
    (tells : Engine.Tells ids (FlowRun.start now) before (run, after) trace) (distinct : ids.Nodup)
    (performs : node.id ∈ ids → node.isAction = true) : Badged trace node (showRun run node) := by
  obtain ⟨ended, -, record⟩ := tells.record
  have isRecord := recordedAs_iff tells.sound distinct node
  by_cases isFault : node.id = FlowRun.faultNode ∧ aborts trace ≠ []
  · rw [showRun_of_fault tells.sound.closed record isFault]
    refine ⟨fun clear => ?_, fun _ => rfl⟩
    obtain ⟨acts, failed⟩ := Classical.not_not.mp fun other => clear ⟨isFault, other⟩
    have truthful := truthful_of_record acts isRecord
    rwa [(isRecord false).mp failed] at truthful
  · rw [showRun_of_record tells.sound.closed record isFault]
    refine ⟨fun _ => ?_, fun eclipsed => absurd eclipsed.1 isFault⟩
    cases acts : node.isAction with
    | true =>
        rw [if_pos (.inl rfl)]
        exact truthful_of_record acts isRecord
    | false =>
        rw [if_neg]
        · exact truthful_of_passive acts
        · rintro (impossible | told)
          · cases impossible
          · -- What was recorded is of a step that was begun, and all steps are actions.
            obtain ⟨success, told⟩ := Option.ne_none_iff_exists'.mp told
            have began := ((isRecord success).mpr told).1
            cases acts.symm.trans (performs (tells.sound.begun_initial.subset began))

/-! ## All nodes -/

/-- After a run of a drawing with distinct ids, whatever the backend and the observer do, every node
shows what became of it, unless it has the id of faults and a fault ended the run. The outcomes of the
run are those recorded for its steps, and one for such a fault. -/
theorem afterRun_badged (engine : Engine σ) (delay : Int) (observer : Option Observer)
    {nodes : List Node} (distinct : (nodes.map Node.id).Nodup) (edges : List Edge) (world : World σ) :
    ∃ trace ended,
      (engine.performFlow delay observer nodes edges world).2.journal = world.journal ++ trace ∧
      (engine.performFlow delay observer nodes edges world).1.outcomes =
        recorded trace ++ (aborts trace).map (FlowRun.faultOutcome · ended) ∧
      List.Forall₂ (Badged trace) nodes
        (afterRun nodes (engine.performFlow delay observer nodes edges world).1) := by
  obtain ⟨ids, trace, tells, single, drawn⟩ :=
    engine.tells_performFlow delay observer nodes edges world
  obtain ⟨ended, -, record⟩ := tells.record
  refine ⟨trace, ended, tells.journal, record, ?_⟩
  rw [afterRun, List.forall₂_map_right_iff, List.forall₂_same]
  intro node member
  refine badged_showRun tells single fun performed => ?_
  obtain ⟨other, isDrawn, acts, same⟩ := drawn node.id performed
  rwa [List.inj_on_of_nodup_map distinct isDrawn member same] at acts

/-- A bridge and a contract call performed in one, with an observer that stops the run in between. -/
def tornRun : FlowRun × World Unit :=
  Sample.engine.performFlow 0 (some (Engine.objector "b")) Sample.brokenNodes Sample.brokenEdges
    (.fresh 0 ())

/-- The bridge shows as completed, and the call, which was performed with it, as pending. -/
theorem afterRun_badged_torn : (Sample.brokenNodes.map Node.id).Nodup ∧
    (∃ trace ended, tornRun.2.journal = [] ++ trace ∧
      tornRun.1.outcomes = recorded trace ++ (aborts trace).map (FlowRun.faultOutcome · ended) ∧
      List.Forall₂ (Badged trace) Sample.brokenNodes (afterRun Sample.brokenNodes tornRun.1)) ∧
    (afterRun Sample.brokenNodes tornRun.1).map (·.badge) = [none, some .completed, some .pending] := by
  have distinct : (Sample.brokenNodes.map Node.id).Nodup := by decide
  refine ⟨distinct, ?_, by decide +kernel⟩
  exact afterRun_badged Sample.engine 0 (some (Engine.objector "b")) distinct Sample.brokenEdges
    (.fresh 0 ())

/-- A transfer of the id of faults. -/
def namesake : List Node := [Sample.start "s" 84532, Sample.transfer "error" "1" "0xabc"]

/-- A run with an observer that stops it once the transfer is done. -/
def namesakeRun : FlowRun × World Unit :=
  Sample.engine.performFlow 0 (some (Engine.objector "error")) namesake [Sample.edge "s" "error"]
    (.fresh 0 ())

/-- The transfer was recorded as a success and shows as failed. -/
theorem afterRun_namesake : (namesake.map Node.id).Nodup ∧
    (recorded namesakeRun.2.journal).map (fun outcome => (outcome.node, outcome.success)) =
      [("error", true)] ∧
    (afterRun namesake namesakeRun.1).map (·.badge) = [none, some .failed] := by
  decide +kernel

end Badge

end ChainFlow
