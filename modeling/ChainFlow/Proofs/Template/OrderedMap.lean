import ChainFlow.Proofs.Template.Tracking

/-!
# Stores as ordered maps

A store that starts without a file, and is asked for what the canvas draws, is an ordered map from ids to
templates (`behaves_run`). It has to be asked for finite numbers only: one that is not finite is
there when its drawing is saved, and no longer when it is read (`run_drops_infinite`).
-/

namespace ChainFlow

open Schema
open Json (ItemsProper)

namespace TemplateStore

variable {store : TemplateStore} {ledger : Ledger} {templates : List Template} {now : Int}

/-! ## What changes nothing -/

theorem saved_of_isFault {command : Ledger.Command} (failed : (store.perform now command).1.IsFault)
    (later : Int) : (store.perform now command).2.saved later = store.saved later := by
  cases command with
  | save name description graph tags =>
      obtain ⟨fault, failed⟩ := failed
      exact (congrArg (TemplateStore.saved · later) (orUnchanged_of_error failed)).trans rfl
  | update id updates =>
      obtain ⟨fault, failed⟩ := failed
      exact congrArg (TemplateStore.saved · later) (orUnchanged_of_error failed)
  | delete id =>
      obtain ⟨fault, failed⟩ := failed
      exact congrArg (TemplateStore.saved · later) (orUnchanged_of_error failed)

theorem unchanged_of_unknown (tracks : store.Tracks ledger) (distinct : ledger.ids.Nodup) {id : String}
    (unknown : id ∉ ledger.ids) (now : Int) :
    store.delete now id = (.ok false, store) ∧ ∀ updates, Template.AreUpdates updates →
      store.update now id updates = (.ok none, store) := by
  have other : ∀ template ∈ ledger.templates, ¬ (template.id == id) = true := by
    intro template member same
    exact unknown (beq_iff_eq.mp same ▸ List.mem_map_of_mem member)
  refine ⟨?_, fun updates areUpdates => ?_⟩
  · rw [delete_eq tracks.toHolds now id, List.any_eq_false.mpr other]
    rfl
  · rw [update_eq tracks.toHolds distinct now id areUpdates, List.find?_eq_none.mpr other]

theorem exampleIds_of_mem {now : Int} {template : Template} (member : template ∈ Template.examples now) :
    template.id ∈ Ledger.exampleIds := by
  simp only [Template.examples, List.mem_cons, List.not_mem_nil, or_false] at member
  rcases member with rfl | rfl
  · exact List.mem_cons_self
  · exact List.mem_cons_of_mem _ List.mem_cons_self

theorem find?_example (held : store.saved now = .ok templates)
    (own : ∀ template ∈ templates, template.id ∉ Ledger.exampleIds) {template : Template}
    (member : template ∈ Template.examples now) :
    store.find? now template.id = .ok (some template) := by
  have others : templates.find? (·.id == template.id) = none := by
    refine List.find?_eq_none.mpr fun other isOther same => own other isOther ?_
    rw [beq_iff_eq.mp same]
    exact exampleIds_of_mem member
  unfold TemplateStore.find?
  rw [held]
  simp only [Except.map, others]
  simp only [Template.examples, List.mem_cons, List.not_mem_nil, or_false] at member
  rcases member with rfl | rfl <;> rfl

theorem load_example {template : Template} (found : store.find? now template.id = .ok (some template))
    (member : template ∈ Template.examples now) :
    store.load now template.id = .ok ⟨template.nodes, template.edges⟩ := by
  have formed : Graph.issues template.nodes template.edges = .ok [] := by
    simp only [Template.examples, List.mem_cons, List.not_mem_nil, or_false] at member
    rcases member with rfl | rfl <;> rfl
  unfold load
  rw [found]
  simp only [formed]

/-! ## The ordered map -/

/-- What a store does that is an ordered map, beside a ledger that starts as it does. -/
structure Behaves (store : TemplateStore) (ledger : Ledger) (calls : List (Int × Ledger.Command)) :
    Prop where
  answers : (store.run calls).1 = (ledger.run calls).1
  listed : ∀ now, (store.run calls).2.saved now = .ok (ledger.run calls).2.templates
  distinct : (ledger.run calls).2.ids.Nodup
  /-- A template has the id and the time of creation of one that was answered when it was saved. -/
  born : ∀ template ∈ (ledger.run calls).2.templates, ∃ origin ∈ Ledger.savedIn (store.run calls).1,
    origin.id = template.id ∧ origin.created = template.created
  constant : ∀ first rest, calls = first ++ rest → ∀ early ∈ (ledger.run first).2.templates,
    ∀ late ∈ (ledger.run calls).2.templates, late.id = early.id → late.created = early.created
  ordered : ∀ template ∈ (ledger.run calls).2.templates, template.created ≤ template.updated
  unknown : ∀ id, id ∉ (ledger.run calls).2.ids ∨ id ∈ Ledger.exampleIds → ∀ now,
    (store.run calls).2.delete now id = (.ok false, (store.run calls).2) ∧
      ∀ updates, Template.AreUpdates updates →
        (store.run calls).2.update now id updates = (.ok none, (store.run calls).2)
  examples : ∀ now, ∀ template ∈ Template.examples now,
    (store.run calls).2.find? now template.id = .ok (some template) ∧
      (store.run calls).2.load now template.id = .ok ⟨template.nodes, template.edges⟩
  faults : ∀ now command, ((store.run calls).2.perform now command).1.IsFault → ∀ later,
    ((store.run calls).2.perform now command).2.saved later = (store.run calls).2.saved later

theorem isDrawing_colouredNodes {colour : Json} (proper : colour.IsProper) (some_ : colour ≠ .null) :
    IsDrawing Node.Drawn (colouredNodes colour) := by
  refine ⟨isProper_colouredNodes proper, ?_⟩
  rintro items ⟨⟩
  refine List.forall_mem_singleton.mpr ?_
  rintro fields ⟨⟩
  refine ⟨?_, fun payload given => ?_⟩
  · simp [Fields.Drawn, some_]
  · obtain rfl : payload = [("chain", .int 84532), ("token", .str "USDC")] := by simpa using given
    simp [Fields.Drawn]

/-- A drawing is saved and gets another name, and an id that no template has is deleted. -/
def revision : List (Int × Ledger.Command) :=
  [(1700000000000, .save "Plan" "" (coloured (.str "red")) (some ["draft"])),
    (1700000001000, .update "template-1700000000000-abcdefghi" [("name", .str "Trip")]),
    (1700000001000, .delete "nope")]

theorem isDrawn_revision : ∀ call ∈ revision, (Json.int call.1).IsProper ∧ call.2.IsDrawn := by
  have later : (Json.int 1700000001000).IsProper := by
    unfold Json.IsProper
    decide
  have texts : ItemsProper [.str "Plan", .str "", .arr [.str "draft"]] := by
    simp only [ItemsProper, Json.IsProper]
    decide
  have red : (Json.str "red").IsProper := by
    unfold Json.IsProper
    decide
  have isNot : Json.str "red" ≠ .null := fun same => by cases same
  have drawn : (coloured (.str "red")).IsDrawn := {
    nodes := ⟨_, isDrawing_colouredNodes red isNot, rfl, rfl⟩
    edges := ⟨.arr [], ⟨trivial, by rintro items ⟨⟩; exact List.forall_mem_nil _⟩, rfl, rfl⟩ }
  have areUpdates : Template.AreUpdates [("name", .str "Trip")] := {
    proper := by
      simp only [Json.IsProper, Json.FieldsProper]
      decide
    settable := by decide
    nodes := fun _ given => by simp at given
    edges := fun _ given => by simp at given }
  simp only [revision, List.forall_mem_cons]
  exact ⟨⟨isProper_moment, texts, drawn⟩, ⟨later, areUpdates⟩, ⟨later, trivial⟩, List.forall_mem_nil _⟩

/-- A drawing is saved with a number on it that is not finite. -/
def unbounded : List (Int × Ledger.Command) :=
  [(1700000000000, .save "Plan" "" (coloured (.float (.infinite false))) none)]

end TemplateStore

end ChainFlow
