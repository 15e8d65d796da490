import ChainFlow.Proofs.Flow.Performing

/-!
# The events of a run

What the events of a run tell: which steps were begun, which outcomes were recorded, and by which
fault the run was ended. `Trace.Sound` is what such events keep to, given the ids of the actions that
are still to come. The events of one step are a `Segment`; a segment without a failure goes in front
of a sound trace, and any segment may be the last.
-/

namespace ChainFlow

namespace Event

/-- Whether an event tells of a failure. -/
def isFailure : Event → Bool
  | recorded outcome => !outcome.success
  | aborted _ => true
  | _ => false

/-- Whether an event is work: a step begun or a call sent. -/
def isWork : Event → Bool
  | began _ => true
  | sent _ => true
  | _ => false

def isReport : Event → Bool
  | recorded _ => true
  | notified _ => true
  | _ => false

def isQuiet : Event → Bool
  | sent _ => true
  | paused _ => true
  | _ => false

theorem isQuiet_of_isOutside {event : Event} (outside : event.isOutside = true) :
    event.isQuiet = true := by
  cases event <;> first | rfl | cases outside

end Event

namespace Trace

def begun (trace : List Event) : List (List String) :=
  trace.filterMap fun
    | .began nodes => some nodes
    | _ => none

def recorded (trace : List Event) : List Outcome :=
  trace.filterMap fun
    | .recorded outcome => some outcome
    | _ => none

def aborts (trace : List Event) : List Fault :=
  trace.filterMap fun
    | .aborted fault => some fault
    | _ => none

@[simp] theorem begun_append (first second : List Event) :
    begun (first ++ second) = begun first ++ begun second := List.filterMap_append

@[simp] theorem recorded_append (first second : List Event) :
    recorded (first ++ second) = recorded first ++ recorded second := List.filterMap_append

@[simp] theorem aborts_append (first second : List Event) :
    aborts (first ++ second) = aborts first ++ aborts second := List.filterMap_append

theorem begun_began (nodes : List String) (trace : List Event) :
    begun (.began nodes :: trace) = nodes :: begun trace := rfl

theorem recorded_began (nodes : List String) (trace : List Event) :
    recorded (.began nodes :: trace) = recorded trace := rfl

theorem aborts_began (nodes : List String) (trace : List Event) :
    aborts (.began nodes :: trace) = aborts trace := rfl

theorem quiet_of_isQuiet {events : List Event} (quiet : ∀ event ∈ events, event.isQuiet = true) :
    begun events = [] ∧ recorded events = [] ∧ aborts events = [] ∧
      ∀ event ∈ events, event.isFailure = false := by
  induction events with
  | nil => exact ⟨rfl, rfl, rfl, by simp⟩
  | cons event events ih =>
      rw [List.forall_mem_cons] at quiet ⊢
      obtain ⟨noStep, noOutcome, noFault, noFailure⟩ := ih quiet.2
      cases event with
      | sent call => exact ⟨noStep, noOutcome, noFault, rfl, noFailure⟩
      | paused pause => exact ⟨noStep, noOutcome, noFault, rfl, noFailure⟩
      | _ => cases quiet.1

theorem idle_of_isReport {events : List Event} (reports : ∀ event ∈ events, event.isReport = true) :
    begun events = [] ∧ aborts events = [] ∧ ∀ event ∈ events, event.isWork = false := by
  induction events with
  | nil => exact ⟨rfl, rfl, by simp⟩
  | cons event events ih =>
      rw [List.forall_mem_cons] at reports ⊢
      obtain ⟨noStep, noFault, noWork⟩ := ih reports.2
      cases event with
      | recorded outcome => exact ⟨noStep, noFault, rfl, noWork⟩
      | notified outcome => exact ⟨noStep, noFault, rfl, noWork⟩
      | _ => cases reports.1

theorem calls_of_idle {σ : Type} {before after : World σ} {events : List Event}
    (journal : after.journal = before.journal ++ events)
    (idle : ∀ event ∈ events, event.isWork = false) : after.calls = before.calls := by
  simp only [World.calls, journal, List.filterMap_append, List.append_right_eq_self,
    List.filterMap_eq_nil_iff]
  intro event member
  have rests := idle event member
  cases event <;> first | rfl | cases rests

/-- No work comes after a failure. -/
def Halts (trace : List Event) : Prop :=
  trace.Pairwise fun earlier later => earlier.isFailure = true → later.isWork = false

theorem halts_append {first second : List Event} (calm : ∀ event ∈ first, event.isFailure = false)
    (halts : Halts second) : Halts (first ++ second) := by
  refine List.pairwise_append.mpr ⟨?_, halts, ?_⟩
  · refine List.pairwise_iff_forall_sublist.mpr fun {earlier later} sublist failure => ?_
    rw [calm earlier (sublist.subset List.mem_cons_self)] at failure
    cases failure
  · intro earlier member later _ failure
    rw [calm earlier member] at failure
    cases failure

theorem halts_of_idle {events : List Event} (idle : ∀ event ∈ events, event.isWork = false) :
    Halts events :=
  List.pairwise_iff_forall_sublist.mpr fun sublist _ =>
    idle _ (sublist.subset (List.mem_cons_of_mem _ List.mem_cons_self))

def Agree (first second : Outcome) : Prop :=
  first.success = second.success ∧ first.error = second.error

/-- What the events of a run keep to, given the ids of the actions to come and how the run ends. -/
structure Sound (ids : List String) (status : RunStatus) (trace : List Event) : Prop where
  begun_initial : (begun trace).flatten <+: ids
  recorded_initial : (recorded trace).map (·.node) <+: (begun trace).flatten
  halts : Halts trace
  agree : ∀ nodes ∈ begun trace, ∀ first ∈ recorded trace, ∀ second ∈ recorded trace,
    first.node ∈ nodes → second.node ∈ nodes → Agree first second
  aborts_le : (aborts trace).length ≤ 1
  closed : status = .completed ∨ status = .failed
  completed_iff : status = .completed ↔
    aborts trace = [] ∧ ∀ outcome ∈ recorded trace, outcome.success = true
  complete : status = .completed → (recorded trace).map (·.node) = ids

/-- The events of one step and the outcomes recorded for it. -/
structure Segment (ids : List String) (outcomes : List Outcome) (events : List Event) : Prop where
  begun_eq : begun events = [ids]
  recorded_eq : recorded events = outcomes
  aborts_eq : aborts events = []
  nodes_initial : outcomes.map (·.node) <+: ids
  agree : ∀ first ∈ outcomes, ∀ second ∈ outcomes, Agree first second
  halts : Halts events

theorem sound_nil : Sound [] .completed [] where
  begun_initial := List.prefix_refl _
  recorded_initial := List.prefix_refl _
  halts := List.Pairwise.nil
  agree := by simp [begun]
  aborts_le := by simp [aborts]
  closed := .inl rfl
  completed_iff := by simp [aborts, recorded]
  complete := fun _ => rfl

theorem sound_abort (ids : List String) (fault : Fault) : Sound ids .failed [.aborted fault] where
  begun_initial := List.nil_prefix
  recorded_initial := List.prefix_refl _
  halts := List.pairwise_singleton _ _
  agree := by simp [begun]
  aborts_le := by simp [aborts]
  closed := .inr rfl
  completed_iff := by simp [aborts]
  complete := by rintro ⟨⟩

theorem no_failure_of_success {events : List Event}
    (success : ∀ outcome ∈ recorded events, outcome.success = true) (clean : aborts events = []) :
    ∀ event ∈ events, event.isFailure = false := by
  intro event member
  cases event with
  | recorded outcome =>
      have done := success outcome (List.mem_filterMap.mpr ⟨_, member, rfl⟩)
      simp only [Event.isFailure, done, Bool.not_true]
  | aborted fault =>
      have ended : fault ∈ aborts events := List.mem_filterMap.mpr ⟨_, member, rfl⟩
      rw [clean] at ended
      cases ended
  | _ => rfl

/-- A step without a failure in front of what the rest of the run tells. -/
theorem Segment.sound_append {ids later : List String} {status : RunStatus}
    {outcomes : List Outcome} {events rest : List Event} (segment : Segment ids outcomes events)
    (all : outcomes.map (·.node) = ids) (success : ∀ outcome ∈ outcomes, outcome.success = true)
    (sound : Sound later status rest) (distinct : (ids ++ later).Nodup) :
    Sound (ids ++ later) status (events ++ rest) := by
  have apart := (List.nodup_append.mp distinct).2.2
  have restNodes : ∀ outcome ∈ recorded rest, outcome.node ∈ later := fun outcome member =>
    sound.begun_initial.subset (sound.recorded_initial.subset (List.mem_map_of_mem member))
  have ownNodes : ∀ outcome ∈ outcomes, outcome.node ∈ ids := by
    intro outcome member
    rw [← all]
    exact List.mem_map_of_mem member
  constructor
  · simpa [segment.begun_eq] using sound.begun_initial
  · simpa [segment.begun_eq, segment.recorded_eq, all] using sound.recorded_initial
  · exact halts_append (no_failure_of_success (by rwa [segment.recorded_eq]) segment.aborts_eq)
      sound.halts
  · simp only [begun_append, recorded_append, segment.begun_eq, segment.recorded_eq,
      List.mem_append, List.mem_singleton]
    rintro nodes (rfl | known) first (isFirst | isFirst) second (isSecond | isSecond) hasFirst hasSecond
    · exact segment.agree first isFirst second isSecond
    · exact absurd rfl (apart _ hasSecond _ (restNodes second isSecond))
    · exact absurd rfl (apart _ hasFirst _ (restNodes first isFirst))
    · exact absurd rfl (apart _ hasFirst _ (restNodes first isFirst))
    all_goals
      have among : ∀ id ∈ nodes, id ∈ later := fun id member =>
        sound.begun_initial.subset (List.mem_flatten_of_mem known member)
    · exact absurd rfl (apart _ (ownNodes first isFirst) _ (among _ hasFirst))
    · exact absurd rfl (apart _ (ownNodes first isFirst) _ (among _ hasFirst))
    · exact absurd rfl (apart _ (ownNodes second isSecond) _ (among _ hasSecond))
    · exact sound.agree nodes known first isFirst second isSecond hasFirst hasSecond
  · simpa [segment.aborts_eq] using sound.aborts_le
  · exact sound.closed
  · rw [sound.completed_iff]
    simp only [aborts_append, segment.aborts_eq, List.nil_append, recorded_append,
      segment.recorded_eq, List.mem_append]
    constructor
    · rintro ⟨clean, fine⟩
      exact ⟨clean, fun outcome member => member.elim (success outcome) (fine outcome)⟩
    · rintro ⟨clean, fine⟩
      exact ⟨clean, fun outcome member => fine outcome (.inr member)⟩
  · intro completed
    simp only [recorded_append, List.map_append, segment.recorded_eq, all, sound.complete completed]

/-- A step after which the run ends, for a failure of its own or for a fault of the observer. -/
theorem Segment.sound_last {ids later : List String} {outcomes : List Outcome}
    {events ending : List Event} (segment : Segment ids outcomes events)
    (ends : (ending = [] ∧ ∃ outcome ∈ outcomes, outcome.success = false) ∨
      ∃ fault, ending = [.aborted fault]) :
    Sound (ids ++ later) .failed (events ++ ending) := by
  have quiet : begun ending = [] ∧ recorded ending = [] ∧ (aborts ending).length ≤ 1 ∧
      Halts ending ∧ ∀ event ∈ ending, event.isWork = false := by
    rcases ends with ⟨rfl, _⟩ | ⟨fault, rfl⟩
    · exact ⟨rfl, rfl, by simp [aborts], List.Pairwise.nil, by simp⟩
    · exact ⟨rfl, rfl, by simp [aborts], List.pairwise_singleton _ _, by simp [Event.isWork]⟩
  obtain ⟨noSteps, noOutcomes, few, halts, idle⟩ := quiet
  constructor
  · simp [segment.begun_eq, noSteps]
  · simpa [segment.begun_eq, segment.recorded_eq, noSteps, noOutcomes] using segment.nodes_initial
  · exact List.pairwise_append.mpr ⟨segment.halts, halts, fun _ _ event member _ => idle event member⟩
  · simp only [recorded_append, segment.recorded_eq, noOutcomes, List.append_nil]
    intro nodes _ first isFirst second isSecond _ _
    exact segment.agree first isFirst second isSecond
  · simpa [segment.aborts_eq] using few
  · exact .inr rfl
  · refine ⟨by rintro ⟨⟩, ?_⟩
    simp only [aborts_append, segment.aborts_eq, List.nil_append, recorded_append,
      segment.recorded_eq, noOutcomes, List.append_nil]
    rintro ⟨clean, success⟩
    rcases ends with ⟨rfl, outcome, member, failure⟩ | ⟨fault, rfl⟩
    · rw [success outcome member] at failure
      cases failure
    · cases clean
  · rintro ⟨⟩

end Trace

end ChainFlow
