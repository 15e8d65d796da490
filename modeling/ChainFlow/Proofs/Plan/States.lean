import ChainFlow.Proofs.Plan.Session
import Mathlib.Data.List.Induction

/-!
# The states of a plan in use

A step that was handed out is open until it is completed, and completing it again is a fault that
changes nothing. `Session.Standing` is what a session keeps to, whatever moves are made: nodes not yet
passed are pending, start and end nodes that were passed are done, and the nodes of a step are done once
the step is completed and as it was handed out before that. So nothing is pending exactly when the order
is used up and every step was completed.
-/

namespace ChainFlow

/-! ## States and their ids -/

namespace States

theorem ids_replace (states : States) (id : String) (state : StepState) :
    (states.replace id state).map (·.1) = states.map (·.1) := by
  rw [replace, List.map_map]
  refine List.map_congr_left fun entry _ => ?_
  by_cases here : entry.1 = id <;> simp [here]

theorem ids_ofOrder {order : List Node} (distinct : (order.map (·.id)).Nodup) :
    (ofOrder order).map (·.1) = order.map (·.id) := by
  rw [ofOrder, List.map_map]
  refine (List.map_id _).trans ?_
  generalize order.map (·.id) = ids at distinct
  induction ids with
  | nil => rfl
  | cons id ids ih =>
      rw [List.nodup_cons] at distinct
      have others : ids.filter (fun other => !other == id) = ids := by
        refine List.filter_eq_self.mpr fun other member => ?_
        have ne : other ≠ id := fun same => distinct.1 (same ▸ member)
        simp [ne]
      rw [List.eraseDups_cons, others, ih distinct.2]

theorem all_done_iff {states : States} (distinct : (states.map (·.1)).Nodup) :
    states.any (·.2 ≠ .done) = false ↔
      ∀ id ∈ states.map (·.1), states.lookup id = some .done := by
  induction states with
  | nil => simp
  | cons entry states ih =>
      obtain ⟨key, state⟩ := entry
      rw [List.map_cons, List.nodup_cons] at distinct
      have later : ∀ id ∈ states.map (·.1), ((key, state) :: states : States).lookup id =
          states.lookup id := by
        intro id member
        have ne : id ≠ key := fun same => distinct.1 (same ▸ member)
        simp [List.lookup_cons, beq_eq_false_iff_ne.mpr ne]
      rw [List.map_cons, List.forall_mem_cons, List.any_cons, Bool.or_eq_false_iff, ih distinct.2]
      refine and_congr (by simp) (forall₂_congr fun id member => ?_)
      rw [later id member]

end States

theorem FlowStep.first_mem (step : FlowStep) : step.first ∈ step.nodes := by
  cases step <;> exact List.mem_cons_self

namespace Plan

theorem state_eq_ok_iff {plan : Plan} {id : String} {state : StepState} :
    plan.state id = .ok state ↔ plan.states.lookup id = some state := by
  unfold Plan.state
  cases plan.states.lookup id <;> simp

theorem ids_transition {states after : States} {id : String} {next : StepState}
    (moved : transition states id next = .ok after) : after.map (·.1) = states.map (·.1) := by
  unfold transition at moved
  split at moved
  · cases moved
  · split at moved
    · cases moved
      exact States.ids_replace _ _ _
    · cases moved

/-! ## Completing a step -/

theorem ids_completeAll (ids : List String) (states : States) :
    (completeAll ids states).2.map (·.1) = states.map (·.1) := by
  induction ids generalizing states with
  | nil => rfl
  | cons id ids ih =>
      unfold completeAll
      cases moved : transition states id .done with
      | error fault => rfl
      | ok after => exact (ih after).trans (ids_transition moved)

theorem lookup_completeAll_of_open {states : States} {step : FlowStep} (isOpen : Open states step) :
    ∀ id ∈ step.ids, (completeAll step.ids states).2.lookup id = some .done := by
  cases step with
  | single node =>
      have moved := transition_ok .done isOpen rfl
      simp [FlowStep.ids, FlowStep.nodes, completeAll, moved, States.lookup_replace,
        show states.lookup node.id = some .pending from isOpen]
  | fused bridge call =>
      obtain ⟨fused, pending, ne⟩ := isOpen
      have first := transition_ok .done fused rfl
      have kept : (states.replace bridge.id .done).lookup call.id = some .pending :=
        (States.lookup_replace_of_ne ne.symm).trans pending
      have second := transition_ok .done kept rfl
      simp [FlowStep.ids, FlowStep.nodes, completeAll, first, second, States.lookup_replace, fused,
        pending, ne, ne.symm]

/-- A step whose nodes are done cannot be completed, and the attempt changes nothing. -/
theorem complete_of_done {plan : Plan} {step : FlowStep}
    (done : ∀ id ∈ step.ids, plan.states.lookup id = some .done) :
    plan.complete step = (.error (.badTransition step.first.id .done .done), plan) := by
  have first := done step.first.id (List.mem_map_of_mem step.first_mem)
  have stuck : transition plan.states step.first.id .done =
      .error (.badTransition step.first.id .done .done) := by
    simp only [transition, first]
    rfl
  have begins : ∃ rest, step.ids = step.first.id :: rest := by
    cases step with
    | single node => exact ⟨[], rfl⟩
    | fused bridge call => exact ⟨[call.id], rfl⟩
  obtain ⟨rest, ids_eq⟩ := begins
  simp only [complete, ids_eq, completeAll, stuck]

theorem Open.congr {states after : States} {step : FlowStep} (isOpen : Open states step)
    (same : ∀ id ∈ step.ids, after.lookup id = states.lookup id) : Open after step := by
  cases step with
  | single node => exact (same node.id (by simp [FlowStep.ids, FlowStep.nodes])).trans isOpen
  | fused bridge call =>
      obtain ⟨fused, pending, ne⟩ := isOpen
      exact ⟨(same bridge.id (by simp [FlowStep.ids, FlowStep.nodes])).trans fused,
        (same call.id (by simp [FlowStep.ids, FlowStep.nodes])).trans pending, ne⟩

theorem Open.not_done {states : States} {step : FlowStep} (isOpen : Open states step) :
    states.lookup step.first.id ≠ some .done := by
  cases step with
  | single node => simp [FlowStep.first, show states.lookup node.id = some .pending from isOpen]
  | fused bridge call => simp [FlowStep.first, isOpen.1]

/-! ## Handing out a step -/

/-- What handing out a step does to the states when it passes some nodes. -/
structure Passes (gone : List Node) (states after : States) : Prop where
  ids_eq : after.map (·.1) = states.map (·.1)
  passive : ∀ node ∈ gone, node.isAction = false → after.lookup node.id = some .done
  apart : ∀ id ∉ gone.map (·.id), after.lookup id = states.lookup id

theorem passes_nextFrom (edges : List Edge) (mayFuse : Bool) {rest : List Node} {states : States}
    (ready : Ready rest states) :
    ∃ gone, rest = gone ++ (nextFrom edges mayFuse rest states).2.1 ∧
      Passes gone states (nextFrom edges mayFuse rest states).2.2 := by
  induction rest generalizing states with
  | nil => exact ⟨[], rfl, rfl, by simp, fun _ _ => rfl⟩
  | cons node rest ih =>
      have pending := ready.pending node List.mem_cons_self
      have later : Ready rest states := Ready.append_right [node] ready
      have distinct := ready.distinct
      rw [List.map_cons, List.nodup_cons] at distinct
      have alone : node.isAction = true → Passes [node] states states := fun action =>
        ⟨rfl, List.forall_mem_singleton.mpr fun passive => by simp [action] at passive, fun _ _ => rfl⟩
      cases action : node.isAction with
      | false =>
          have moved := transition_ok .done pending rfl
          have kept : Ready rest (states.replace node.id .done) := later.congr fun next member =>
            States.lookup_replace_of_ne fun same => distinct.1 (same ▸ List.mem_map_of_mem member)
          obtain ⟨gone, split, passes⟩ := ih kept
          have own : node.id ∉ gone.map (·.id) := by
            intro inside
            rw [split, List.map_append] at distinct
            exact distinct.1 (List.mem_append_left _ inside)
          simp only [nextFrom, action, moved, Bool.not_false, reduceIte]
          refine ⟨node :: gone, congrArg (node :: ·) split, ?_, ?_, ?_⟩
          · exact passes.ids_eq.trans (States.ids_replace _ _ _)
          · refine List.forall_mem_cons.mpr ⟨fun _ => ?_, passes.passive⟩
            rw [passes.apart _ own, States.lookup_replace, if_pos rfl, pending]
            rfl
          · intro id outside
            rw [List.map_cons, List.mem_cons, not_or] at outside
            rw [passes.apart id outside.2, States.lookup_replace_of_ne outside.1]
      | true =>
          cases rest with
          | nil =>
              simp only [nextFrom, action, Bool.not_true, Bool.false_eq_true, reduceIte]
              exact ⟨[node], rfl, alone action⟩
          | cons next rest =>
              by_cases fuses : mayFuse = true ∧ canFuse edges node next = true
              · have moved := transition_ok .fused pending rfl
                obtain ⟨_, ⟨call, isCall, _⟩, _⟩ := canFuse_iff.mp fuses.2
                simp only [nextFrom, action, fuses.1, fuses.2, moved, Bool.not_true, Bool.and_self,
                  Bool.false_eq_true, reduceIte]
                refine ⟨[node, next], rfl, States.ids_replace _ _ _, ?_, ?_⟩
                · simp [action, isAction_of_call? isCall]
                · intro id outside
                  simp only [List.map_cons, List.mem_cons, not_or] at outside
                  exact States.lookup_replace_of_ne outside.1
              · simp only [nextFrom, action, Bool.not_true, Bool.false_eq_true, reduceIte,
                  Bool.and_eq_true, fuses]
                exact ⟨[node], rfl, alone action⟩

end Plan

/-! ## Moves -/

namespace Session

variable {order : List Node} {edges : List Edge}

/-- Whether the step at a place among those handed out was completed by some moves, the place having
been taken by then. -/
def Completed (order : List Node) (edges : List Edge) (moves : List Move) (place : Nat) : Prop :=
  ∃ earlier later, moves = earlier ++ .complete place :: later ∧
    place < ((start order edges).run earlier).issued.length

theorem run_append (session : Session) (moves more : List Move) :
    session.run (moves ++ more) = (session.run moves).run more := List.foldl_append

theorem run_concat (session : Session) (moves : List Move) (move : Move) :
    session.run (moves ++ [move]) = (session.run moves).after move := run_append session moves [move]

theorem completed_concat {moves : List Move} {move : Move} {place : Nat} :
    Completed order edges (moves ++ [move]) place ↔ Completed order edges moves place ∨
      move = .complete place ∧ place < ((start order edges).run moves).issued.length := by
  constructor
  · rintro ⟨earlier, later, split, taken⟩
    rcases List.eq_nil_or_concat later with rfl | ⟨later, last, rfl⟩
    · obtain ⟨rfl, same⟩ := List.append_inj' split rfl
      exact .inr ⟨List.singleton_inj.mp same, taken⟩
    · rw [List.concat_eq_append, ← List.cons_append, ← List.append_assoc] at split
      obtain ⟨rfl, _⟩ := List.append_inj' split rfl
      exact .inl ⟨earlier, later, rfl, taken⟩
  · rintro (⟨earlier, later, rfl, taken⟩ | ⟨rfl, taken⟩)
    · exact ⟨earlier, later ++ [move], by simp, taken⟩
    · exact ⟨moves, [], rfl, taken⟩

theorem issued_after (session : Session) (move : Move) :
    session.issued <+: (session.after move).issued := by
  cases move with
  | next mayFuse =>
      simp only [after]
      split
      · exact List.prefix_append _ _
      · exact List.prefix_refl _
  | complete place =>
      simp only [after]
      split <;> exact List.prefix_refl _

theorem issued_run (session : Session) (moves : List Move) :
    session.issued <+: (session.run moves).issued := by
  induction moves generalizing session with
  | nil => exact List.prefix_refl _
  | cons move moves ih => exact (issued_after session move).trans (ih _)

theorem lt_of_completed {moves : List Move} {place : Nat}
    (completed : Completed order edges moves place) :
    place < ((start order edges).run moves).issued.length := by
  obtain ⟨earlier, later, rfl, taken⟩ := completed
  rw [run_append]
  exact Nat.lt_of_lt_of_le taken (issued_run _ _).length_le

/-! ## Steps apart from each other -/

theorem Sound.apart_rest {session : Session} (distinct : (order.map (·.id)).Nodup)
    (sound : Sound order edges session) {issue : Bool × FlowStep} (member : issue ∈ session.issued)
    {node : Node} (ahead : node ∈ session.plan.rest) : node.id ∉ issue.2.ids := by
  intro clash
  obtain ⟨gone, split, members⟩ := sound.passed
  obtain ⟨own, inside, same⟩ := List.mem_map.mp clash
  rw [split, List.map_append] at distinct
  exact (List.nodup_append.mp distinct).2.2 own.id (List.mem_map_of_mem (members issue member own inside))
    node.id (List.mem_map_of_mem ahead) same

theorem Sound.action_of_issued {session : Session} (sound : Sound order edges session)
    {issue : Bool × FlowStep} (member : issue ∈ session.issued) {node : Node}
    (own : node ∈ issue.2.nodes) : node ∈ order ∧ node.isAction = true := by
  rw [← List.mem_filter, sound.actions]
  exact List.mem_append_left _ (List.mem_flatMap.mpr ⟨issue, member, own⟩)

theorem Sound.apart_passive {session : Session} (distinct : (order.map (·.id)).Nodup)
    (sound : Sound order edges session) {issue : Bool × FlowStep} (member : issue ∈ session.issued)
    {node : Node} (within : node ∈ order) (passive : node.isAction = false) :
    node.id ∉ issue.2.ids := by
  intro clash
  obtain ⟨own, inside, same⟩ := List.mem_map.mp clash
  obtain ⟨known, action⟩ := sound.action_of_issued member inside
  rw [List.inj_on_of_nodup_map distinct known within same, passive] at action
  cases action

theorem Sound.apart_issued {session : Session} (distinct : (order.map (·.id)).Nodup)
    (sound : Sound order edges session) {place other : Nat} {issue issue' : Bool × FlowStep}
    (first : session.issued[place]? = some issue) (second : session.issued[other]? = some issue')
    (ne : place ≠ other) : ∀ id ∈ issue.2.ids, id ∉ issue'.2.ids := by
  have once : (session.issued.flatMap (·.2.ids)).Nodup := by
    have actions := (List.filter_sublist (p := Node.isAction) (l := order)).map (·.id)
    rw [sound.actions, List.map_append, handedOut, List.map_flatMap] at actions
    exact (List.nodup_append.mp (distinct.sublist actions)).1
  have pairs := List.pairwise_iff_getElem.mp (List.nodup_flatMap.mp once).2
  obtain ⟨bound, rfl⟩ := List.getElem?_eq_some_iff.mp first
  obtain ⟨bound', rfl⟩ := List.getElem?_eq_some_iff.mp second
  intro id inside clash
  rcases Nat.lt_or_gt_of_ne ne with less | greater
  · exact pairs place other bound bound' less inside clash
  · exact pairs other place bound' bound greater clash inside

/-! ## What a session keeps to -/

/-- The states of a session of which the steps at some places were completed. -/
structure Standing (order : List Node) (edges : List Edge) (completed : Nat → Prop)
    (session : Session) : Prop where
  sound : Sound order edges session
  ids_eq : session.plan.states.map (·.1) = order.map (·.id)
  passive : ∀ gone, order = gone ++ session.plan.rest → ∀ node ∈ gone, node.isAction = false →
    session.plan.states.lookup node.id = some .done
  isOpen : ∀ place issue, session.issued[place]? = some issue → ¬completed place →
    Plan.Open session.plan.states issue.2
  done : ∀ place issue, session.issued[place]? = some issue → completed place →
    ∀ id ∈ issue.2.ids, session.plan.states.lookup id = some .done

variable {completed : Nat → Prop} {session : Session}

theorem standing_start (distinct : (order.map (·.id)).Nodup) :
    Standing order edges (Completed order edges []) (start order edges) where
  sound := sound_start distinct
  ids_eq := States.ids_ofOrder distinct
  passive := by
    intro gone split node member
    rw [List.self_eq_append_left.mp split] at member
    cases member
  isOpen := by rintro place issue ⟨⟩
  done := by rintro place issue ⟨⟩

theorem plan_after_next (session : Session) (mayFuse : Bool) :
    (session.after (.next mayFuse)).plan = (session.plan.next mayFuse).2 := by
  simp only [after]
  split <;> rename_i asked <;> exact (congrArg Prod.snd asked).symm

theorem issued_after_next (sound : Sound order edges session) (mayFuse : Bool) {place : Nat}
    {issue : Bool × FlowStep} (found : (session.after (.next mayFuse)).issued[place]? = some issue) :
    session.issued[place]? = some issue ∨ session.issued.length ≤ place ∧
      Plan.Open (session.after (.next mayFuse)).plan.states issue.2 := by
  rcases Plan.nextFrom_of_ready edges mayFuse sound.ready with
    ⟨states, exhausted, _⟩ | ⟨step, later, states, issued⟩
  · left
    simpa only [after, Plan.next, sound.edges_eq, exhausted] using found
  · rw [next_of_issued sound issued] at found ⊢
    rcases Nat.lt_or_ge place session.issued.length with old | new
    · left
      rwa [List.getElem?_append_left old] at found
    · right
      rw [List.getElem?_append_right new, List.getElem?_singleton] at found
      split at found
      · cases found
        exact ⟨new, issued.isOpen⟩
      · cases found

/-- Nodes that are passed belong to no step handed out before, so the states of those steps stay. -/
theorem standing_next (distinct : (order.map (·.id)).Nodup)
    (standing : Standing order edges completed session)
    (taken : ∀ place, completed place → place < session.issued.length) (mayFuse : Bool) :
    Standing order edges completed (session.after (.next mayFuse)) := by
  have sound := standing.sound
  obtain ⟨skipped, ahead, passes⟩ := Plan.passes_nextFrom edges mayFuse sound.ready
  have plan_eq : (session.after (.next mayFuse)).plan =
      ⟨(Plan.nextFrom edges mayFuse session.plan.rest session.plan.states).2.1, edges,
        (Plan.nextFrom edges mayFuse session.plan.rest session.plan.states).2.2⟩ := by
    rw [plan_after_next, Plan.next, sound.edges_eq]
  have same : ∀ issue ∈ session.issued, ∀ id ∈ issue.2.ids,
      (session.after (.next mayFuse)).plan.states.lookup id = session.plan.states.lookup id := by
    intro issue member id inside
    rw [plan_eq]
    refine passes.apart id fun clash => ?_
    obtain ⟨node, passed, rfl⟩ := List.mem_map.mp clash
    exact sound.apart_rest distinct member (ahead ▸ List.mem_append_left _ passed) inside
  constructor
  · exact sound_next sound mayFuse
  · rw [plan_eq]
    exact passes.ids_eq.trans standing.ids_eq
  · intro gone split node member passive
    obtain ⟨before, whole, _⟩ := sound.passed
    rw [plan_eq] at split ⊢
    have gone_eq : gone = before ++ skipped := by
      rw [ahead, ← List.append_assoc] at whole
      exact List.append_cancel_right (split.symm.trans whole)
    rcases List.mem_append.mp (gone_eq ▸ member) with earlier | now
    · refine (passes.apart node.id fun clash => ?_).trans
        (standing.passive before whole node earlier passive)
      rw [whole, ahead, List.map_append, List.map_append] at distinct
      exact (List.nodup_append.mp distinct).2.2 node.id (List.mem_map_of_mem earlier) node.id
        (List.mem_append_left _ clash) rfl
    · exact passes.passive node now passive
  · intro place issue found waits
    rcases issued_after_next sound mayFuse found with old | ⟨_, isOpen⟩
    · exact (standing.isOpen place issue old waits).congr (same issue (List.mem_of_getElem? old))
    · exact isOpen
  · intro place issue found was id inside
    rcases issued_after_next sound mayFuse found with old | ⟨new, _⟩
    · exact (same issue (List.mem_of_getElem? old) id inside).trans
        (standing.done place issue old was id inside)
    · exact absurd (taken place was) (Nat.not_lt.mpr new)

/-- Completing an open step changes the states of its own nodes only. -/
theorem standing_complete (distinct : (order.map (·.id)).Nodup)
    (standing : Standing order edges completed session) {place : Nat} {issue : Bool × FlowStep}
    (found : session.issued[place]? = some issue) :
    Standing order edges (fun other => completed other ∨ other = place)
      ⟨(session.plan.complete issue.2).2, session.issued⟩ := by
  have sound := standing.sound
  have member := List.mem_of_getElem? found
  have after_eq : session.after (.complete place) =
      ⟨(session.plan.complete issue.2).2, session.issued⟩ := by
    simp only [after, found]
  have same : ∀ id ∉ issue.2.ids, (session.plan.complete issue.2).2.states.lookup id =
      session.plan.states.lookup id := fun id outside => Plan.lookup_completeAll outside
  constructor
  · rw [← after_eq]
    exact sound_complete distinct sound place
  · exact (Plan.ids_completeAll _ _).trans standing.ids_eq
  · intro gone split node inside passive
    have within : node ∈ order := split ▸ List.mem_append_left _ inside
    rw [same _ (sound.apart_passive distinct member within passive)]
    exact standing.passive gone split node inside passive
  · intro other issue' found' waits
    rw [not_or] at waits
    refine (standing.isOpen other issue' found' waits.1).congr fun id inside => same id ?_
    exact sound.apart_issued distinct found' found waits.2 id inside
  · intro other issue' found' was id inside
    by_cases here : other = place
    · subst here
      cases found.symm.trans found'
      by_cases before : completed other
      · rw [Plan.complete_of_done (standing.done other issue found before)]
        exact standing.done other issue found before id inside
      · exact Plan.lookup_completeAll_of_open (standing.isOpen other issue found before) id inside
    · rw [same id (sound.apart_issued distinct found' found here id inside)]
      exact standing.done other issue' found' (was.resolve_right here) id inside

theorem standing_run (distinct : (order.map (·.id)).Nodup) (moves : List Move) :
    Standing order edges (Completed order edges moves) ((start order edges).run moves) := by
  induction moves using List.reverseRecOn with
  | nil => exact standing_start distinct
  | append_singleton moves move ih =>
      rw [run_concat]
      cases move with
      | next mayFuse =>
          have same : Completed order edges (moves ++ [.next mayFuse]) = Completed order edges moves := by
            funext place
            simp [completed_concat]
          rw [same]
          exact standing_next distinct ih (fun _ => lt_of_completed) mayFuse
      | complete place =>
          cases found : ((start order edges).run moves).issued[place]? with
          | none =>
              have bound := List.getElem?_eq_none_iff.mp found
              have same : Completed order edges (moves ++ [.complete place]) =
                  Completed order edges moves := by
                funext other
                simp only [completed_concat, Move.complete.injEq, eq_iff_iff, or_iff_left_iff_imp]
                rintro ⟨rfl, taken⟩
                omega
              simpa only [same, after, found] using ih
          | some issue =>
              have bound := (List.getElem?_eq_some_iff.mp found).1
              have same : Completed order edges (moves ++ [.complete place]) =
                  fun other => Completed order edges moves other ∨ other = place := by
                funext other
                simp only [completed_concat, Move.complete.injEq, eq_iff_iff]
                refine or_congr_right ⟨fun both => both.1.symm, ?_⟩
                rintro rfl
                exact ⟨rfl, bound⟩
              simpa only [same, after, found] using standing_complete distinct ih found

/-! ## What a session shows -/

/-- The states that a plan shows once the steps at some places were completed. -/
structure Shows (order : List Node) (completed : Nat → Prop) (session : Session) : Prop where
  passed : ∃ gone, order = gone ++ session.plan.rest ∧
    ∀ node ∈ gone, node.isAction = false → session.plan.state node.id = .ok .done
  ahead : ∀ node ∈ session.plan.rest, session.plan.state node.id = .ok .pending
  done : ∀ place asked step, session.issued[place]? = some (asked, step) → completed place →
    ∀ node ∈ step.nodes, session.plan.state node.id = .ok .done
  single : ∀ place asked node, session.issued[place]? = some (asked, .single node) →
    ¬completed place → session.plan.state node.id = .ok .pending
  fused : ∀ place asked bridge call, session.issued[place]? = some (asked, .fused bridge call) →
    ¬completed place →
      session.plan.state bridge.id = .ok .fused ∧ session.plan.state call.id = .ok .pending

theorem Standing.shows (standing : Standing order edges completed session) :
    Shows order completed session where
  passed := by
    obtain ⟨gone, split, _⟩ := standing.sound.passed
    exact ⟨gone, split, fun node member passive =>
      Plan.state_eq_ok_iff.mpr (standing.passive gone split node member passive)⟩
  ahead node member := Plan.state_eq_ok_iff.mpr (standing.sound.ready.pending node member)
  done place asked step found was node inside := Plan.state_eq_ok_iff.mpr
    (standing.done place (asked, step) found was node.id (List.mem_map_of_mem inside))
  single place asked node found waits := Plan.state_eq_ok_iff.mpr
    (standing.isOpen place (asked, .single node) found waits)
  fused place asked bridge call found waits := by
    obtain ⟨fused, pending, _⟩ := standing.isOpen place (asked, .fused bridge call) found waits
    exact ⟨Plan.state_eq_ok_iff.mpr fused, Plan.state_eq_ok_iff.mpr pending⟩

theorem Standing.hasPending_iff (distinct : (order.map (·.id)).Nodup)
    (standing : Standing order edges completed session) :
    session.plan.hasPending = false ↔
      session.plan.rest = [] ∧ ∀ place < session.issued.length, completed place := by
  have ids_eq := standing.ids_eq
  rw [Plan.hasPending, States.all_done_iff (ids_eq ▸ distinct), ids_eq]
  constructor
  · intro allDone
    refine ⟨List.eq_nil_iff_forall_not_mem.mpr fun node member => ?_, fun place bound => ?_⟩
    · obtain ⟨gone, split, _⟩ := standing.sound.passed
      have done := allDone node.id (split ▸ List.mem_map_of_mem (List.mem_append_right _ member))
      rw [standing.sound.ready.pending node member] at done
      cases done
    · by_contra waits
      have found := List.getElem?_eq_getElem bound
      have known := (standing.sound.action_of_issued (List.getElem_mem bound)
        session.issued[place].2.first_mem).1
      exact (standing.isOpen place _ found waits).not_done (allDone _ (List.mem_map_of_mem known))
  · rintro ⟨usedUp, allCompleted⟩ id member
    obtain ⟨node, inside, rfl⟩ := List.mem_map.mp member
    cases action : node.isAction with
    | false =>
        exact standing.passive order (by rw [usedUp, List.append_nil]) node inside action
    | true =>
        have acts := List.mem_filter.mpr ⟨inside, action⟩
        rw [standing.sound.actions, usedUp, List.filter_nil, List.append_nil] at acts
        obtain ⟨issue, issued, own⟩ := List.mem_flatMap.mp acts
        obtain ⟨place, bound, rfl⟩ := List.getElem_of_mem issued
        exact standing.done place _ (List.getElem?_eq_getElem bound) (allCompleted place bound)
          node.id (List.mem_map_of_mem own)

end Session

/-- Whatever moves are made, a step can be asked for at any time, a step can be completed once, and a
second attempt changes nothing. Every node shows how far its step has come, and nothing is pending
exactly when the order is used up and all steps were completed. -/
theorem session_states {order : List Node} (edges : List Edge)
    (distinct : (order.map (·.id)).Nodup) (moves : List Move) :
    let session := (Session.start order edges).run moves
    let completed := Session.Completed order edges moves
    (∀ mayFuse, ∃ answer, (session.plan.next mayFuse).1 = .ok answer) ∧
    (∀ place asked step, session.issued[place]? = some (asked, step) →
      (completed place → session.plan.complete step =
        (.error (.badTransition step.first.id .done .done), session.plan)) ∧
      (¬completed place → (session.plan.complete step).1 = .ok ())) ∧
    Session.Shows order completed session ∧
    (session.plan.hasPending = false ↔
      session.plan.rest = [] ∧ ∀ place < session.issued.length, completed place) := by
  intro session completed
  have standing : Session.Standing order edges completed session := Session.standing_run distinct moves
  refine ⟨fun mayFuse => ?_, fun place asked step found => ⟨fun was => ?_, fun waits => ?_⟩,
    standing.shows, standing.hasPending_iff distinct⟩
  · rcases Plan.next_of_ready mayFuse standing.sound.ready with
      ⟨after, exhausted, _⟩ | ⟨step, handed, done, steps⟩
    · exact ⟨none, by rw [exhausted]⟩
    · exact ⟨some step, by rw [steps.next]⟩
  · exact Plan.complete_of_done (standing.done place (asked, step) found was)
  · exact Plan.completeAll_of_open (standing.isOpen place (asked, step) found waits)

/-- A bridge with its call is handed out and left open; the step after it is completed, twice. -/
def lateMoves : List Move := [.next true, .complete 5, .next false, .complete 1, .complete 1]

theorem session_states_sample :
    let order := Graph.order Sample.nodes Sample.edges
    let session := (Session.start order Sample.edges).run lateMoves
    (order.map (·.id)).Nodup ∧ session.plan.state "b" = .ok .fused ∧
      session.plan.state "c" = .ok .pending ∧ session.plan.state "t" = .ok .done ∧
      session.plan.hasPending = true := by
  intro order session
  have distinct : (order.map (·.id)).Nodup := by decide
  obtain ⟨_, _, shows, pending_iff⟩ := session_states Sample.edges distinct lateMoves
  have waits : ¬Session.Completed order Sample.edges lateMoves 0 := by
    rintro ⟨earlier, later, split, _⟩
    have member : Move.complete 0 ∈ lateMoves := split ▸ by simp
    simp [lateMoves] at member
  have was : Session.Completed order Sample.edges lateMoves 1 :=
    ⟨[.next true, .complete 5, .next false], [.complete 1], rfl, by decide⟩
  have fused := shows.fused 0 true (Sample.bridge "b" 11155111 "5") (Sample.call "c" .stake "2.5") rfl
    waits
  have done := shows.done 1 false (.single (Sample.transfer "t" "1" "0xabc")) rfl was _
    List.mem_cons_self
  refine ⟨distinct, fused.1, fused.2, done, ?_⟩
  cases settled : session.plan.hasPending with
  | true => rfl
  | false => exact absurd ((pending_iff.mp settled).2 0 (by decide)) waits

end ChainFlow
