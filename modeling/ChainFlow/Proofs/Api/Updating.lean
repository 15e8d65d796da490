import ChainFlow.Proofs.Api.Templates
import ChainFlow.Proofs.Template.Merging
import ChainFlow.Proofs.Template.Untouched

/-!
# Answers to updates

An update of a template that is accepted is answered with the template that it asks for, unless it is null
where a value has to be, or the plain form of a node or edge is not read again (`update_answers`). Then
the request ends in an internal error, and leaves the store as it was.
-/

namespace ChainFlow.Api

open Schema
open Template (Revision)

/-! ## Accepted bodies -/

theorem change_eq {α : Type} (fields : Fields) (name : String) (read : Json → Reading α)
    (write : α → Json) : change fields name read write =
      (Revision.given fields name read).map (Revision.entry name write) := by
  unfold change Revision.given
  cases fields.get? name with
  | none => rfl
  | some value =>
      dsimp only
      cases (nullable read value).under (.field name) <;> rfl

theorem readChanges_eq (value : Json) :
    readChanges value = (Revision.read value).map Revision.fields := by
  cases value with
  | obj fields =>
      unfold readChanges Revision.read
      simp only [object, Reading.andThen, change_eq]
      generalize Revision.given fields "name" _ = name
      generalize Revision.given fields "description" _ = description
      generalize Revision.given fields "nodes" _ = nodes
      generalize Revision.given fields "edges" _ = edges
      generalize Revision.given fields "tags" _ = tags
      cases name <;> cases description <;> cases nodes <;> cases edges <;> cases tags <;> rfl
  | _ => rfl

/-- A body is accepted if it can be read as a revision. -/
theorem Body.read_revision {body : Body} {changes : Fields}
    (accepted : body.read readChanges = .ok changes) :
    ∃ revision, body.read Revision.read = .ok revision ∧ changes = revision.fields := by
  unfold Body.read at accepted ⊢
  split at accepted
  · cases accepted
  · cases accepted
  · next value some_ denotes =>
      split at accepted
      · next isRead =>
          cases accepted
          rw [readChanges_eq] at isRead
          obtain ⟨revision, own, same⟩ := Reading.map_eq_ok_iff.mp isRead
          exact ⟨revision, by simp only [own], same.symm⟩
      · cases accepted

/-! ## Answers -/

namespace Service

variable {σ : Type}

/-- How an update is answered that is for a template among those of a store, if `merged` is the template
that it asks for. -/
structure AnswersUpdate (revision : Revision) (merged : Template) (earlier later : List Template)
    (state : State σ) (result : Answer × State σ) : Prop where
  /-- It fails if there is a null for a value, or if a node or edge is not read again. -/
  refused : (revision.IsWhole → ∀ again, ¬merged.RereadAs again) → result = (.internalError, state)
  /-- Otherwise the template is answered and kept, if all can be written. -/
  revised : revision.IsWhole → ∀ again, merged.RereadAs again →
    result = if (earlier ++ again :: later).all (·.fitsLevels) then
        (.json 200 (again.dump .full), { state with store := { state.store with
          text := some (TemplateStore.textOf (earlier ++ again :: later)) } })
      else (.internalError, state)

theorem answersUpdate (state : State σ) {id : String} (earlier : List Template) {later : List Template}
    {old : Template} (held : state.store.saved state.world.clock = .ok (earlier ++ old :: later))
    (own : old.id = id) (apart : ∀ other ∈ earlier, other.id ≠ id) (revision : Revision) :
    AnswersUpdate revision (revision.applyTo old state.world.clock) earlier later state
      (update id revision.fields state) := by
  have updates := TemplateStore.update_of_known held own apart revision
  constructor
  · intro refuses
    cases revised : TemplateStore.revised old revision.fields state.world.clock with
    | ok again =>
        obtain ⟨whole, rereads⟩ := Template.revised_eq_ok_iff.mp revised
        exact absurd rereads (refuses whole again)
    | error fault =>
        rw [revised] at updates
        simp only [update, updates, orInternal]
  · intro whole again rereads
    rw [Template.revised_eq_ok_iff.mpr ⟨whole, rereads⟩] at updates
    dsimp only at updates
    simp only [update, updates]
    split
    · next fits =>
        have own : again.fitsLevels = true := by
          rw [List.all_append, List.all_cons, Bool.and_eq_true, Bool.and_eq_true] at fits
          exact fits.2.1
        refine Prod.ext ?_ rfl
        change template 200 again = _
        rw [template, if_pos own]
    · rfl

/-- An update that is accepted is answered with 404 and nothing else if no template has the id. Otherwise
the first that has it is read again with what the body sets laid over it; what the body leaves out stays as
it is, and where no undeclared field has the plain name of a declared one, all is read as it is. -/
theorem update_answers (service : Service σ) {turn : Turn σ} {id : String}
    (leads : route turn.verb turn.path = .endpoint (.updateTemplate id)) {changes : Fields}
    (accepted : turn.body.read readChanges = .ok changes) {store : TemplateStore}
    {templates : List Template} (held : store.saved turn.world.clock = .ok templates) :
    let result := service.answer turn.verb turn.path turn.body ⟨turn.world, store⟩
    ∃ revision, turn.body.read Revision.read = .ok revision ∧ changes = revision.fields ∧
      ((∀ template ∈ templates, template.id ≠ id) → result = (.noTemplate, ⟨turn.world, store⟩)) ∧
      ∀ earlier old later, templates = earlier ++ old :: later → (∀ other ∈ earlier, other.id ≠ id) →
        old.id = id →
        let merged := revision.applyTo old turn.world.clock
        AnswersUpdate revision merged earlier later ⟨turn.world, store⟩ result ∧
          (turn.body.IsJoined → old.IsRead → merged.IsPlain → merged.RereadAs merged) := by
  intro result
  obtain ⟨revision, reading, rfl⟩ := Body.read_revision accepted
  have answers : result = update id revision.fields ⟨turn.world, store⟩ :=
    answer_update leads accepted _
  refine ⟨revision, reading, rfl, fun unknown => ?_, ?_⟩
  · have updates := TemplateStore.update_of_unknown held unknown revision
    simp only [answers, update, updates, orInternal, found]
  · rintro earlier old later rfl apart own
    refine ⟨?_, fun joined isRead isPlain => ?_⟩
    · rw [answers]
      exact answersUpdate ⟨turn.world, store⟩ earlier held own apart revision
    · obtain ⟨value, proper, own⟩ := Body.exists_of_read joined reading
      exact Revision.rereadAs_applyTo proper own isRead isPlain

/-- A new name, and no tags. -/
def relabelling : Turn Unit :=
  { unnaming with
    world := World.fresh 1700000000001 (Gateway.stranger ())
    body := .raw "\x7b\"name\": \"New\", \"tags\": null\x7d" }

theorem value_relabelling :
    relabelling.body.value = .ok (.obj [("name", .str "New"), ("tags", .null)]) :=
  Body.value_raw ['\x7b', '"', 'n', 'a', 'm', 'e', '"', ':', ' ', '"', 'N', 'e', 'w', '"', ',', ' ', '"',
    't', 'a', 'g', 's', '"', ':', ' ', 'n', 'u', 'l', 'l', '\x7d'] (by decide +kernel)
    (by decide +kernel) rfl rfl

theorem update_answers_noted :
    route relabelling.verb relabelling.path =
      .endpoint (.updateTemplate "template-1700000000000-abcdefghi") ∧
    relabelling.body.read readChanges = .ok [("name", .str "New"), ("tags", .null)] ∧
    (TemplateStore.bridged "note" (.str "slow")).saved 1700000000001 =
      .ok [TemplateStore.bridgedPlan "note" (.str "slow")] ∧
    (silent.answer relabelling.verb relabelling.path relabelling.body
      ⟨relabelling.world, TemplateStore.bridged "note" (.str "slow")⟩).1 =
        .json 200 (Template.dump .full { TemplateStore.bridgedPlan "note" (.str "slow") with
          name := "New", updated := 1700000000001 }) := by
  have leads : route relabelling.verb relabelling.path =
    .endpoint (.updateTemplate "template-1700000000000-abcdefghi") := route_unnaming
  have accepted : relabelling.body.read readChanges = .ok [("name", .str "New"), ("tags", .null)] := by
    rw [Body.read, value_relabelling]
    rfl
  have read : relabelling.body.read Revision.read =
      .ok ⟨some (some "New"), none, none, none, some none⟩ := by
    rw [Body.read, value_relabelling]
    rfl
  have held := TemplateStore.saved_noted 1700000000001
  refine ⟨leads, accepted, held, ?_⟩
  obtain ⟨revision, reading, -, -, known⟩ := update_answers silent leads accepted held
  cases read.symm.trans reading
  obtain ⟨answers, plain⟩ := known [] _ [] rfl (List.forall_mem_nil _) rfl
  have rereads := plain (by decide +kernel) TemplateStore.isRead_noted
    ⟨TemplateStore.isPlain_noted.nodes, TemplateStore.isPlain_noted.edges⟩
  have whole : Revision.IsWhole ⟨some (some "New"), none, none, none, some none⟩ :=
    ⟨by simp, by simp, by simp, by simp⟩
  rw [answers.revised whole _ rereads]
  rfl

/-- A name that is null. -/
def nulling : Turn Unit := { unnaming with body := .raw "\x7b\"name\": null\x7d" }

/-- An update is accepted, but ends in an internal error. -/
theorem update_nulls : ∃ changes template,
    nulling.body.read readChanges = .ok changes ∧
    (silent.storeAfter .empty [naming]).saved nulling.world.clock = .ok [template] ∧
    route nulling.verb nulling.path = .endpoint (.updateTemplate template.id) ∧
    (silent.answer nulling.verb nulling.path nulling.body
      ⟨nulling.world, silent.storeAfter .empty [naming]⟩).1 = .internalError := by
  have accepted : nulling.body.read readChanges = .ok [("name", .null)] := by
    rw [nulling, Body.read, Body.value_raw ['\x7b', '"', 'n', 'a', 'm', 'e', '"', ':', ' ', 'n', 'u',
      'l', 'l', '\x7d'] (by decide +kernel) (by decide +kernel) rfl rfl]
    rfl
  have leads : route nulling.verb nulling.path =
    .endpoint (.updateTemplate "template-1700000000000-abcdefghi") := route_unnaming
  have held := TemplateStore.holds_planned.saved 1700000000000
  have answers := answersUpdate ⟨nulling.world, TemplateStore.planned⟩ [] held rfl
    (List.forall_mem_nil _) ⟨some none, none, none, none, none⟩
  have fails : update "template-1700000000000-abcdefghi" [("name", .null)]
      ⟨nulling.world, TemplateStore.planned⟩ = (.internalError, ⟨nulling.world, TemplateStore.planned⟩) :=
    answers.refused fun whole => absurd rfl whole.name
  rw [storeAfter_naming, storeAfter_nil]
  refine ⟨_, _, accepted, held, leads, ?_⟩
  rw [answer_update leads accepted, fails]

end Service

end ChainFlow.Api
