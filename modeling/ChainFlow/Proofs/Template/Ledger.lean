import ChainFlow.Proofs.Template.Revising
import Mathlib.Data.List.Pairwise

/-!
# An ordered map of templates

A `Ledger` is what a template store is meant to be: a list of templates in the order in which they
were saved, without a file. Saving appends, updating replaces in place and deleting removes. While the
ids that are given out differ, so do the ids of the list, and each template keeps the id and the time
of creation that it was saved with (`sound_run`).
-/

namespace ChainFlow

open Schema

namespace Ledger

inductive Command where
  | save (name description : String) (graph : Graph) (tags : Option (List String))
  | update (id : String) (updates : Fields)
  | delete (id : String)

inductive Answer where
  | saved (result : Except Fault Template)
  | updated (result : Except Fault (Option Template))
  | deleted (result : Except Fault Bool)

/-- The template that was saved, if the answer is one. -/
def Answer.saved? : Answer → Option Template
  | saved (.ok template) => some template
  | _ => none

/-- Whether what is to be saved was drawn on the canvas, with finite numbers, and all texts are ones
that can be written. -/
def Command.IsDrawn : Command → Prop
  | save name description graph tags =>
    Json.ItemsProper
        [.str name, .str description, .ofOption (fun tags => .arr (tags.map .str)) tags] ∧
      graph.IsDrawn
  | update _ updates => Template.AreUpdates updates
  | delete _ => True

def Answer.IsFault : Answer → Prop
  | saved result => ∃ fault, result = .error fault
  | updated result => ∃ fault, result = .error fault
  | deleted result => ∃ fault, result = .error fault

/-- The templates that were saved, as they were answered. -/
def savedIn (answers : List Answer) : List Template := answers.filterMap Answer.saved?

def runWith {σ : Type} (perform : σ → Int → Command → Answer × σ) (state : σ) :
    List (Int × Command) → List Answer × σ
  | [] => ([], state)
  | (now, command) :: rest =>
    let done := perform state now command
    let others := runWith perform done.2 rest
    (done.1 :: others.1, others.2)

theorem runWith_append {σ : Type} {perform : σ → Int → Command → Answer × σ} {state : σ}
    {first rest : List (Int × Command)} :
    runWith perform state (first ++ rest) =
      ((runWith perform state first).1 ++ (runWith perform (runWith perform state first).2 rest).1,
        (runWith perform (runWith perform state first).2 rest).2) := by
  induction first generalizing state with
  | nil => rfl
  | cons call first ih =>
      obtain ⟨now, command⟩ := call
      rw [List.cons_append, runWith, ih]
      rfl

end Ledger

structure Ledger where
  templates : List Template
  /-- How many letters of ids have been drawn. -/
  drawn : Nat

namespace Ledger

def ids (ledger : Ledger) : List String := ledger.templates.map (·.id)

def newId (ledger : Ledger) (now : Int) : String := (TemplateStore.newId ⟨none, ledger.drawn⟩ now).1

def save (ledger : Ledger) (now : Int) (name description : String) (graph : Graph)
    (tags : Option (List String)) : Except Fault Template × Ledger :=
  let template : Template :=
    ⟨ledger.newId now, name, description, graph.nodes, graph.edges, now, now, tags⟩
  let drawn := ledger.drawn + TemplateStore.idLetters
  if template.fitsLevels then (.ok template, ⟨ledger.templates ++ [template], drawn⟩)
  else (.error .tooNested, ⟨ledger.templates, drawn⟩)

/-- The ledger with a template in place of the one of an id. -/
def replace (ledger : Ledger) (id : String) (template : Template) : Ledger :=
  { ledger with templates := ledger.templates.map fun old => if old.id = id then template else old }

def update (ledger : Ledger) (now : Int) (id : String) (updates : Fields) :
    Except Fault (Option Template) × Ledger :=
  match ledger.templates.find? (·.id == id) with
  | none => (.ok none, ledger)
  | some template =>
    match ofReading Template.record (template.amended updates now) with
    | .error fault => (.error fault, ledger)
    | .ok amended =>
      if amended.fitsLevels then (.ok (some amended), ledger.replace id amended)
      else (.error .tooNested, ledger)

def delete (ledger : Ledger) (id : String) : Except Fault Bool × Ledger :=
  (.ok (ledger.templates.any (·.id == id)),
    { ledger with templates := ledger.templates.filter (·.id ≠ id) })

def perform (ledger : Ledger) (now : Int) : Command → Answer × Ledger
  | .save name description graph tags =>
    let done := ledger.save now name description graph tags
    (.saved done.1, done.2)
  | .update id updates =>
    let done := ledger.update now id updates
    (.updated done.1, done.2)
  | .delete id =>
    let done := ledger.delete id
    (.deleted done.1, done.2)

def run (ledger : Ledger) (calls : List (Int × Command)) : List Answer × Ledger :=
  runWith perform ledger calls

/-! ## One command -/

/-- What a command at a time makes of a list of templates, and which template it saves. -/
inductive Change (now : Int) (newId : String) (before : List Template) :
    Option Template → List Template → Prop
  | none : Change now newId before none before
  | saved {template : Template} (id : template.id = newId) (created : template.created = now)
      (updated : template.updated = now) :
      Change now newId before (some template) (before ++ [template])
  | replaced {old template : Template} (member : old ∈ before) (id : template.id = old.id)
      (created : template.created = old.created) (updated : template.updated = now) :
      Change now newId before Option.none
        (before.map fun other => if other.id = old.id then template else other)
  | deleted (id : String) : Change now newId before Option.none (before.filter (·.id ≠ id))

theorem change_perform (ledger : Ledger) (now : Int) (command : Command) :
    Change now (ledger.newId now) ledger.templates (ledger.perform now command).1.saved?
      (ledger.perform now command).2.templates := by
  cases command with
  | save name description graph tags =>
      dsimp only [perform, save]
      split
      · exact .saved rfl rfl rfl
      · exact .none
  | update id updates =>
      dsimp only [perform, update]
      split
      · exact .none
      · next template found =>
          obtain rfl : template.id = id := by simpa using List.find?_some found
          split
          · exact .none
          · next amended done =>
              obtain ⟨same, created, updated⟩ := Template.eq_of_amended (ofReading_eq_ok done)
              split
              · exact .replaced (List.mem_of_find?_eq_some found) same created updated
              · exact .none
  | delete id => exact .deleted id

/-! ## Any number of commands -/

/-- The ids that templates of examples have. -/
def exampleIds : List String := ["example-bridge-stake", "example-simple-bridge"]

theorem newId_not_mem_exampleIds (ledger : Ledger) (now : Int) : ledger.newId now ∉ exampleIds := by
  have written := TemplateStore.toList_newId ⟨none, ledger.drawn⟩ now
  intro member
  simp only [exampleIds, List.mem_cons, List.not_mem_nil, or_false] at member
  rcases member with same | same
  all_goals
    unfold newId at same
    rw [same] at written
    cases congrArg List.head? written

/-- What holds of a list of templates after some were saved, with some commands to come. -/
structure Sound (history : List Template) (calls : List (Int × Command))
    (templates : List Template) : Prop where
  distinct : (templates.map (·.id)).Nodup
  born : ∀ template ∈ templates, ∃ origin ∈ history,
    origin.id = template.id ∧ origin.created = template.created
  ordered : ∀ template ∈ templates, template.created ≤ template.updated
  past : ∀ template ∈ templates, ∀ call ∈ calls, template.updated ≤ call.1
  own : ∀ origin ∈ history, origin.id ∉ exampleIds

variable {history : List Template} {calls : List (Int × Command)} {templates after : List Template}

theorem Sound.rest {call : Int × Command} (sound : Sound history (call :: calls) templates) :
    Sound history calls templates where
  distinct := sound.distinct
  born := sound.born
  ordered := sound.ordered
  past template member other isCall :=
    sound.past template member other (List.mem_cons_of_mem call isCall)
  own := sound.own

theorem Sound.sublist (sound : Sound history calls templates) (sublist : after.Sublist templates) :
    Sound history calls after where
  distinct := sound.distinct.sublist (sublist.map _)
  born template member := sound.born template (sublist.subset member)
  ordered template member := sound.ordered template (sublist.subset member)
  past template member := sound.past template (sublist.subset member)
  own := sound.own

theorem Sound.append {template : Template} (sound : Sound history calls templates)
    (created : template.created = template.updated)
    (later : ∀ call ∈ calls, template.updated ≤ call.1) (notExample : template.id ∉ exampleIds)
    (distinct : ((history ++ [template]).map (·.id)).Nodup) :
    Sound (history ++ [template]) calls (templates ++ [template]) where
  distinct := by
    rw [List.map_append, List.nodup_append'] at distinct ⊢
    refine ⟨sound.distinct, List.nodup_singleton _, fun id taken own => ?_⟩
    obtain ⟨old, member, rfl⟩ := List.mem_map.mp taken
    obtain ⟨origin, isOrigin, same, -⟩ := sound.born old member
    exact distinct.2.2 (List.mem_map.mpr ⟨origin, isOrigin, same⟩) own
  born := by
    refine List.forall_mem_append.mpr ⟨fun old member => ?_, List.forall_mem_singleton.mpr ?_⟩
    · obtain ⟨origin, isOrigin, same⟩ := sound.born old member
      exact ⟨origin, List.mem_append_left _ isOrigin, same⟩
    · exact ⟨template, List.mem_concat_self, rfl, rfl⟩
  ordered := List.forall_mem_append.mpr ⟨sound.ordered, List.forall_mem_singleton.mpr created.le⟩
  past := List.forall_mem_append.mpr ⟨sound.past, List.forall_mem_singleton.mpr later⟩
  own := List.forall_mem_append.mpr ⟨sound.own, List.forall_mem_singleton.mpr notExample⟩

theorem Sound.replace {old template : Template} (sound : Sound history calls templates)
    (member : old ∈ templates) (id : template.id = old.id) (created : template.created = old.created)
    (grows : old.updated ≤ template.updated)
    (later : ∀ call ∈ calls, template.updated ≤ call.1) :
    Sound history calls
      (templates.map fun other => if other.id = old.id then template else other) := by
  have each : ∀ other ∈ templates.map fun other => if other.id = old.id then template else other,
      other = template ∨ other ∈ templates := by
    intro other isOther
    obtain ⟨source, isSource, rfl⟩ := List.mem_map.mp isOther
    split
    · exact .inl rfl
    · exact .inr isSource
  have ids : (templates.map fun other => if other.id = old.id then template else other).map (·.id) =
      templates.map (·.id) := by
    rw [List.map_map]
    refine List.map_congr_left fun other _ => ?_
    rw [Function.comp_apply]
    split
    · next same => rw [id, same]
    · rfl
  refine ⟨ids ▸ sound.distinct, fun other isOther => ?_, fun other isOther => ?_,
    fun other isOther => ?_, sound.own⟩
  · rcases each other isOther with rfl | kept
    · rw [id, created]
      exact sound.born old member
    · exact sound.born other kept
  · rcases each other isOther with rfl | kept
    · rw [created]
      exact (sound.ordered old member).trans grows
    · exact sound.ordered other kept
  · rcases each other isOther with rfl | kept
    · exact later
    · exact sound.past other kept

theorem sound_change {now : Int} {newId : String} {command : Command} {saved : Option Template}
    (sound : Sound history ((now, command) :: calls) templates)
    (change : Change now newId templates saved after)
    (later : ∀ call ∈ calls, now ≤ call.1) (notExample : newId ∉ exampleIds)
    (distinct : ((history ++ saved.toList).map (·.id)).Nodup) :
    Sound (history ++ saved.toList) calls after := by
  cases change with
  | none =>
      rw [Option.toList_none, List.append_nil]
      exact sound.rest
  | saved id created updated =>
      subst updated
      exact sound.rest.append created later (id ▸ notExample) distinct
  | @replaced old template member id created updated =>
      rw [Option.toList_none, List.append_nil]
      subst updated
      have grows := sound.past old member _ List.mem_cons_self
      exact sound.rest.replace member id created grows later
  | deleted id =>
      rw [Option.toList_none, List.append_nil]
      exact sound.rest.sublist List.filter_sublist

theorem savedIn_cons (answer : Answer) (answers : List Answer) :
    savedIn (answer :: answers) = answer.saved?.toList ++ savedIn answers := by
  unfold savedIn
  rw [List.filterMap_cons]
  cases answer.saved? <;> rfl

/-- A ledger with commands to come, at times that do not go back, and with templates to be saved by
them under ids that were not given out before. -/
structure Ready (history coming : List Template) (calls : List (Int × Command)) (ledger : Ledger) :
    Prop extends Sound history calls ledger.templates where
  clock : (calls.map (·.1)).Pairwise (· ≤ ·)
  fresh : ((history ++ coming).map (·.id)).Nodup

variable {ledger : Ledger} {coming : List Template}

theorem ready_start {drawn : Nat} (clock : (calls.map (·.1)).Pairwise (· ≤ ·))
    (fresh : (coming.map (·.id)).Nodup) : Ready [] coming calls ⟨[], drawn⟩ where
  distinct := List.nodup_nil
  born _ member := nomatch member
  ordered _ member := nomatch member
  past _ member := nomatch member
  own _ member := nomatch member
  clock := clock
  fresh := fresh

theorem ready_perform {now : Int} {command : Command} {answer : Answer}
    (same : answer = (ledger.perform now command).1)
    (ready : Ready history (answer.saved?.toList ++ coming) ((now, command) :: calls) ledger) :
    Ready (history ++ answer.saved?.toList) coming calls (ledger.perform now command).2 := by
  subst same
  obtain ⟨sound, clock, fresh⟩ := ready
  rw [List.map_cons, List.pairwise_cons] at clock
  rw [← List.append_assoc] at fresh
  have distinct := fresh
  rw [List.map_append] at distinct
  have change := sound_change sound (change_perform ledger now command)
    (fun call isCall => clock.1 call.1 (List.mem_map_of_mem isCall))
    (newId_not_mem_exampleIds ledger now) (distinct.sublist (List.sublist_append_left _ _))
  exact ⟨change, clock.2, fresh⟩

theorem sound_run (ready : Ready history (savedIn (ledger.run calls).1) calls ledger) :
    Sound (history ++ savedIn (ledger.run calls).1) [] (ledger.run calls).2.templates := by
  induction calls generalizing ledger history with
  | nil =>
      have none : savedIn (ledger.run []).1 = [] := rfl
      rw [none, List.append_nil]
      exact ready.toSound
  | cons call calls ih =>
      obtain ⟨now, command⟩ := call
      have step : savedIn (ledger.run ((now, command) :: calls)).1 =
          (ledger.perform now command).1.saved?.toList ++
            savedIn ((ledger.perform now command).2.run calls).1 := savedIn_cons _ _
      rw [step] at ready ⊢
      rw [← List.append_assoc]
      exact ih (ready_perform rfl ready)

theorem Ready.first {first rest : List (Int × Command)} {others : List Template}
    (ready : Ready history (coming ++ others) (first ++ rest) ledger) :
    Ready history coming first ledger where
  distinct := ready.distinct
  born := ready.born
  ordered := ready.ordered
  past template member call isCall :=
    ready.past template member call (List.mem_append_left rest isCall)
  own := ready.own
  clock := by
    have clock := ready.clock
    rw [List.map_append] at clock
    exact clock.sublist (List.sublist_append_left _ _)
  fresh := by
    have fresh := ready.fresh
    rw [← List.append_assoc, List.map_append] at fresh
    exact fresh.sublist (List.sublist_append_left _ _)

/-- A template that is there at two moments has the same time of creation at both. -/
theorem created_run {first rest : List (Int × Command)}
    (ready : Ready history (savedIn (ledger.run (first ++ rest)).1) (first ++ rest) ledger)
    {early late : Template} (isEarly : early ∈ (ledger.run first).2.templates)
    (isLate : late ∈ (ledger.run (first ++ rest)).2.templates) (same : late.id = early.id) :
    late.created = early.created := by
  have parts : savedIn (ledger.run (first ++ rest)).1 =
      savedIn (ledger.run first).1 ++ savedIn ((ledger.run first).2.run rest).1 := by
    unfold run
    rw [runWith_append]
    exact List.filterMap_append
  -- Both come from templates that were saved, and no two of these have an id in common.
  obtain ⟨lateOrigin, lateBorn, lateId, lateCreated⟩ := (sound_run ready).born late isLate
  have fresh := ready.fresh
  rw [parts] at ready lateBorn fresh
  obtain ⟨origin, isBorn, id, created⟩ := (sound_run ready.first).born early isEarly
  have member : origin ∈ history ++
      (savedIn (ledger.run first).1 ++ savedIn ((ledger.run first).2.run rest).1) := by
    rw [← List.append_assoc]
    exact List.mem_append_left _ isBorn
  have one : lateOrigin = origin :=
    List.inj_on_of_nodup_map fresh lateBorn member (lateId.trans (same.trans id.symm))
  rw [← lateCreated, ← created, one]

end Ledger

end ChainFlow
