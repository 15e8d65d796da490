import ChainFlow.Proofs.Plan.Next
import Mathlib.Data.List.Nodup
import ChainFlow.Proofs.Sample

/-!
# Plans in use

A `Session` is a plan with the steps that it has handed out so far. Its caller makes moves: it asks
for the next step, each time with a leave to fuse or without one, and completes steps that it was
given, in any order and as often as it likes. Whatever it does, the steps handed out take up the
action nodes of the order from the front, and a bridge is handed out with the node after it exactly
where both the caller and the drawing allow it.
-/

namespace ChainFlow

inductive Move where
  | next (mayFuse : Bool)
  /-- Completes a step, given by its place among those handed out. -/
  | complete (place : Nat)

def Move.asks : Move → Bool
  | next _ => true
  | complete _ => false

structure Session where
  plan : Plan
  /-- The steps handed out, each with the leave it was asked for with. -/
  issued : List (Bool × FlowStep)

namespace Session

def start (order : List Node) (edges : List Edge) : Session := ⟨.ofOrder order edges, []⟩

/-- The session after a move. A fault of the plan goes to the caller, who may go on. -/
def after (session : Session) : Move → Session
  | .next mayFuse =>
    match session.plan.next mayFuse with
    | (.ok (some step), plan) => ⟨plan, session.issued ++ [(mayFuse, step)]⟩
    | (_, plan) => ⟨plan, session.issued⟩
  | .complete place =>
    match session.issued[place]? with
    | some (_, step) => ⟨(session.plan.complete step).2, session.issued⟩
    | none => session

def run (session : Session) (moves : List Move) : Session := moves.foldl after session

def handedOut (session : Session) : List Node := session.issued.flatMap fun issue => issue.2.nodes

/-- Whether a bridge and the node that comes right after it can be one step: the node calls a
contract for an action other than a swap, and an edge leads from the bridge to it. -/
def Pairs (edges : List Edge) (node : Node) (behind : List Node) (partner : Node) : Prop :=
  (∃ bridge, node.bridge? = some bridge) ∧ behind.head? = some partner ∧
    (∃ call, partner.call? = some call ∧ call.action ≠ .swap) ∧
    ∃ edge ∈ edges, edge.source = node.id ∧ edge.target = partner.id

structure Sound (order : List Node) (edges : List Edge) (session : Session) : Prop where
  edges_eq : session.plan.edges = edges
  ready : Plan.Ready session.plan.rest session.plan.states
  passed : ∃ gone, order = gone ++ session.plan.rest ∧
    ∀ issue ∈ session.issued, ∀ node ∈ issue.2.nodes, node ∈ gone
  actions : order.filter Node.isAction =
    session.handedOut ++ session.plan.rest.filter Node.isAction
  taken : ∀ issue ∈ session.issued, ∃ before rest later, order = before ++ rest ∧
    Plan.Issues edges issue.1 rest issue.2 later

variable {order : List Node} {edges : List Edge}

theorem sound_start (distinct : (order.map (·.id)).Nodup) :
    Sound order edges (start order edges) where
  edges_eq := rfl
  ready := Plan.ready_ofOrder distinct
  passed := ⟨[], rfl, fun _ member => by cases member⟩
  actions := rfl
  taken := fun _ member => by cases member

theorem next_of_issued {session : Session} {mayFuse : Bool} {step : FlowStep} {later : List Node}
    {states : States} (sound : Sound order edges session)
    (issued : Plan.Issued edges mayFuse session.plan.rest session.plan.states step later states) :
    session.after (.next mayFuse) =
      ⟨⟨later, edges, states⟩, session.issued ++ [(mayFuse, step)]⟩ := by
  simp only [after, Plan.next, sound.edges_eq, issued.handed]

theorem sound_next {session : Session} (sound : Sound order edges session) (mayFuse : Bool) :
    Sound order edges (session.after (.next mayFuse)) := by
  rcases Plan.nextFrom_of_ready edges mayFuse sound.ready with
    ⟨states, exhausted, passive⟩ | ⟨step, later, states, issued⟩
  · have moved : session.after (.next mayFuse) = ⟨⟨[], edges, states⟩, session.issued⟩ := by
      simp only [after, Plan.next, sound.edges_eq, exhausted]
    obtain ⟨gone, split, members⟩ := sound.passed
    rw [moved]
    constructor
    · rfl
    · exact ⟨List.nodup_nil, fun _ member => by cases member⟩
    · refine ⟨order, by simp, ?_⟩
      intro issue member node inside
      rw [split]
      exact List.mem_append_left _ (members issue member node inside)
    · simpa [handedOut, passive] using sound.actions
    · exact sound.taken
  · obtain ⟨gone, split, members⟩ := sound.passed
    obtain ⟨skipped, rest⟩ := issued.issues.split
    rw [next_of_issued sound issued]
    constructor
    · rfl
    · exact issued.ready
    · refine ⟨gone ++ skipped ++ step.nodes, by simp only [split, rest, List.append_assoc], ?_⟩
      intro issue member node inside
      rcases List.mem_append.mp member with earlier | new
      · have before := members issue earlier node inside
        simp [before]
      · rw [List.mem_singleton.mp new] at inside
        exact List.mem_append_right _ inside
    · rw [sound.actions, issued.issues.actions_eq]
      simp [handedOut]
    · intro issue member
      rcases List.mem_append.mp member with earlier | new
      · exact sound.taken issue earlier
      · rw [List.mem_singleton.mp new]
        exact ⟨gone, session.plan.rest, later, split, issued.issues⟩

theorem sound_complete {session : Session} (distinct : (order.map (·.id)).Nodup)
    (sound : Sound order edges session) (place : Nat) :
    Sound order edges (session.after (.complete place)) := by
  cases found : session.issued[place]? with
  | none => simpa only [after, found] using sound
  | some issue =>
      obtain ⟨mayFuse, step⟩ := issue
      simp only [after, found]
      obtain ⟨gone, split, members⟩ := sound.passed
      have apart : ∀ node ∈ session.plan.rest, node.id ∉ step.ids := by
        intro node member clash
        obtain ⟨own, inside, same⟩ := List.mem_map.mp clash
        have before := members _ (List.mem_of_getElem? found) own inside
        rw [split, List.map_append] at distinct
        exact (List.nodup_append.mp distinct).2.2 own.id (List.mem_map_of_mem before)
          node.id (List.mem_map_of_mem member) same
      have kept : Plan.Ready session.plan.rest (session.plan.complete step).2.states :=
        sound.ready.congr fun node member => Plan.lookup_completeAll (apart node member)
      exact ⟨sound.edges_eq, kept, sound.passed, sound.actions, sound.taken⟩

theorem sound_run {session : Session} (distinct : (order.map (·.id)).Nodup)
    (sound : Sound order edges session) (moves : List Move) :
    Sound order edges (session.run moves) := by
  induction moves generalizing session with
  | nil => exact sound
  | cons move moves ih =>
      cases move with
      | next mayFuse => exact ih (sound_next sound mayFuse)
      | complete place => exact ih (sound_complete distinct sound place)

theorem length_rest_after {session : Session} (sound : Sound order edges session) (move : Move) :
    (session.after move).plan.rest.length ≤
      session.plan.rest.length - if move.asks then 1 else 0 := by
  cases move with
  | complete place =>
      simp only [after]
      split <;> exact Nat.le_refl _
  | next mayFuse =>
      rcases Plan.nextFrom_of_ready edges mayFuse sound.ready with
        ⟨states, exhausted, _⟩ | ⟨step, later, states, issued⟩
      · simp only [after, Plan.next, sound.edges_eq, exhausted, List.length_nil, Nat.zero_le]
      · have shorter := issued.issues.length_lt
        rw [next_of_issued sound issued]
        simp only [Move.asks, reduceIte]
        omega

theorem length_rest_run {session : Session} (distinct : (order.map (·.id)).Nodup)
    (sound : Sound order edges session) (moves : List Move) :
    (session.run moves).plan.rest.length ≤ session.plan.rest.length - moves.countP Move.asks := by
  induction moves generalizing session with
  | nil => exact Nat.le_refl _
  | cons move moves ih =>
      have step := length_rest_after sound move
      have later := ih (sound_run distinct sound [move])
      simp only [run, List.foldl_cons, List.foldl_nil, List.countP_cons] at later ⊢
      omega

theorem issued_iff {session : Session} (distinct : (order.map (·.id)).Nodup)
    (sound : Sound order edges session) {mayFuse : Bool} {step : FlowStep}
    (member : (mayFuse, step) ∈ session.issued) {before behind : List Node} {node : Node}
    (split : order = before ++ node :: behind) (first : step.first = node) (partner : Node) :
    step = .fused node partner ↔ mayFuse = true ∧ Pairs edges node behind partner := by
  obtain ⟨earlier, rest, later, suffix, issues⟩ := sound.taken _ member
  obtain ⟨passed, rfl⟩ := issues.split
  have fused := issues.fused_iff partner
  have head : step.nodes = node :: step.nodes.tail := by
    subst first
    cases step <;> rfl
  have behind_eq : behind = step.nodes.tail ++ later := by
    have all : order = (earlier ++ passed) ++ node :: (step.nodes.tail ++ later) := by
      rw [suffix, head]
      simp only [List.tail_cons, List.append_assoc, List.cons_append]
    have nodup := distinct.of_map
    rw [all, List.nodup_middle, List.nodup_cons, List.mem_append, not_or] at nodup
    have same := all.symm.trans split
    exact ((List.append_cons_inj_of_notMem nodup.1.1 nodup.1.2).mp same).2.2.symm
  rw [first, ← behind_eq, canFuse_iff] at fused
  rw [fused]
  constructor
  · rintro ⟨may, ⟨isBridge, isCall, joined⟩, next⟩
    exact ⟨may, isBridge, next, isCall, joined⟩
  · rintro ⟨may, isBridge, next, isCall, joined⟩
    exact ⟨may, ⟨isBridge, isCall, joined⟩, next⟩

end Session

/-- Steps are handed out without a fault until the order is used up, which it is after as many
questions as it has nodes at the latest. What is handed out are its action nodes, each once and in
order; and the step that begins with a node takes the node behind it along exactly if it may and the
two are a pair. -/
theorem session_issues {order : List Node} (edges : List Edge)
    (distinct : (order.map (·.id)).Nodup) (moves : List Move) (mayFuse : Bool) :
    let session := (Session.start order edges).run moves
    (∃ answer, (session.plan.next mayFuse).1 = .ok answer) ∧
    (order.length ≤ moves.countP Move.asks → (session.plan.next mayFuse).1 = .ok none) ∧
    session.handedOut <+: order.filter Node.isAction ∧
    ((session.plan.next mayFuse).1 = .ok none →
      session.handedOut = order.filter Node.isAction) ∧
    ∀ asked step, (asked, step) ∈ session.issued → ∀ before node behind,
      order = before ++ node :: behind → step.first = node →
      (∀ partner, step = .fused node partner ↔
        asked = true ∧ Session.Pairs edges node behind partner) ∧
      (step = .single node ↔ ¬(asked = true ∧ ∃ partner, Session.Pairs edges node behind partner)) := by
  intro session
  have sound : Session.Sound order edges session :=
    Session.sound_run distinct (Session.sound_start distinct) moves
  have short : session.plan.rest.length ≤ order.length - moves.countP Move.asks :=
    Session.length_rest_run distinct (Session.sound_start distinct) moves
  have answers := Plan.nextFrom_of_ready edges mayFuse sound.ready
  simp only [Plan.next, sound.edges_eq]
  refine ⟨?_, ?_, ⟨_, sound.actions.symm⟩, ?_, ?_⟩
  · rcases answers with ⟨states, exhausted, _⟩ | ⟨step, later, states, issued⟩
    · exact ⟨none, by rw [exhausted]⟩
    · exact ⟨some step, by rw [issued.handed]⟩
  · intro enough
    have empty : session.plan.rest = [] := List.eq_nil_of_length_eq_zero (by omega)
    rw [empty]
    rfl
  · intro exhausted
    rcases answers with ⟨states, _, passive⟩ | ⟨step, later, states, issued⟩
    · rw [sound.actions, passive, List.append_nil]
    · rw [issued.handed] at exhausted
      cases exhausted
  · intro asked step member before node behind split first
    have fused := Session.issued_iff distinct sound member split first
    refine ⟨fused, ?_⟩
    constructor
    · rintro rfl ⟨may, partner, pairs⟩
      cases (fused partner).mpr ⟨may, pairs⟩
    · intro alone
      cases step with
      | single own => exact congrArg FlowStep.single first
      | fused own partner =>
          cases first
          exact absurd ((fused partner).mp rfl) fun pairs => alone ⟨pairs.1, partner, pairs.2⟩

/-- Moves with changing leaves, in which steps are completed late and twice. -/
def sampleMoves : List Move :=
  [.next true, .complete 0, .next false, .complete 0, .next true, .complete 1, .next true, .next true]

theorem session_sample :
    let order := Graph.order Sample.nodes Sample.edges
    let session := (Session.start order Sample.edges).run sampleMoves
    (order.map (·.id)).Nodup ∧ (session.plan.next false).1 = .ok none ∧
      session.handedOut = order.filter Node.isAction ∧
      session.issued.map (fun issue => (issue.1, issue.2.ids)) =
        [(true, ["b", "c"]), (false, ["t"])] := by
  intro order session
  have distinct : (order.map (·.id)).Nodup := by decide
  have issues := session_issues Sample.edges distinct sampleMoves false
  have exhausted : (session.plan.next false).1 = .ok none := issues.2.1 (by decide)
  exact ⟨distinct, exhausted, issues.2.2.2.1 exhausted, by decide⟩

end ChainFlow
