import ChainFlow.Proofs.Template.Stored

/-!
# Updates that leave the drawing alone

An update of the name, the description or the tags of a stored template leaves its nodes and edges as
they were if and only if none of their undeclared fields has the plain name of a declared one. All other
templates are there again as they were, but for undeclared nulls (`update_leaves_graph`).
-/

namespace ChainFlow

open Schema
open Json (IsProper ItemsProper)

/-- What holds of each value that has the same image as its partner holds of all if all images agree. -/
theorem forall_of_forall₂_map {α γ : Type} {related : α → α → Prop} {image : α → γ} {holds : α → Prop}
    {values results : List α} (pairs : List.Forall₂ related values results)
    (same : results.map image = values.map image)
    (step : ∀ value ∈ values, ∀ result, related value result → image result = image value → holds value) :
    ∀ value ∈ values, holds value := by
  induction pairs with
  | nil => exact fun value member => nomatch member
  | cons own _ ih =>
      obtain ⟨first, rest⟩ := List.cons.inj same
      rw [List.forall_mem_cons] at step ⊢
      exact ⟨step.1 _ own first, ih rest step.2⟩

namespace Template

/-- The fields of a template beside its drawing that an update can set. -/
def captions : List String := ["name", "description", "tags"]

/-- Whether two templates have the same nodes and edges. -/
def SameGraph (first second : Template) : Prop :=
  first.nodes = second.nodes ∧ first.edges = second.edges

variable {template revised : Template} {changes : Fields} {now : Int}

section

variable (proper : (Json.obj changes).IsProper) (only : Fields.names changes ⊆ captions)

include proper only

theorem areChanges_of_captions : AreChanges changes where
  proper := proper
  settable := List.Subset.trans only (by decide)

/-- The nodes and edges of a template that is revised are read again from their plain forms. -/
theorem readLists_of_revised (revises : TemplateStore.revised template changes now = .ok revised) :
    Node.readList .document (.arr (template.nodes.map (·.dump .plain))) = .ok revised.nodes ∧
      Edge.readList .document (.arr (template.edges.map (·.dump .plain))) = .ok revised.edges := by
  have absent : ∀ name ∉ captions, name ∉ Fields.names changes := fun name other taken => other (only taken)
  have held : ∀ {α : Type} {read : Json → Reading α} {name : String} {default result : α} {source : Json},
      name ∉ captions → name ≠ "updated_at" → template.plainFields.get? name = some source →
      withDefault (template.overlaid changes now) (.same name) default read = .ok result →
      read source = .ok result := by
    intro α read name default result source free other own reading
    unfold withDefault at reading
    rw [Label.found?_same, get?_overlaid proper.1 other, Fields.get?_eq_none.mpr (absent name free),
      Option.none_or, own] at reading
    exact Reading.under_eq_ok_iff.mp reading
  rw [revised_eq_read, Fields.erase_of_not_mem (absent "id" (by decide)),
    Fields.erase_of_not_mem (absent "created_at" (by decide))] at revises
  obtain ⟨_, tags, seven, -, rfl⟩ := Reading.apply_eq_ok_iff.mp (ofReading_eq_ok revises)
  obtain ⟨_, updated, six, -, rfl⟩ := Reading.apply_eq_ok_iff.mp seven
  obtain ⟨_, created, five, -, rfl⟩ := Reading.apply_eq_ok_iff.mp six
  obtain ⟨_, edges, four, edgesRead, rfl⟩ := Reading.apply_eq_ok_iff.mp five
  obtain ⟨_, nodes, three, nodesRead, rfl⟩ := Reading.apply_eq_ok_iff.mp four
  obtain ⟨_, description, two, -, rfl⟩ := Reading.apply_eq_ok_iff.mp three
  obtain ⟨_, name, one, -, rfl⟩ := Reading.apply_eq_ok_iff.mp two
  obtain ⟨id, -, rfl⟩ := Reading.map_eq_ok_iff.mp one
  exact ⟨held (by decide) (by decide) rfl nodesRead, held (by decide) (by decide) rfl edgesRead⟩

variable (revises : TemplateStore.revised template changes now = .ok revised)

include revises

theorem sameGraph_of_isPlain (isRead : template.IsRead) (isPlain : template.IsPlain) :
    revised.SameGraph template := by
  obtain ⟨nodesRead, edgesRead⟩ := readLists_of_revised proper only revises
  have nodes : Node.readList .document (.arr (template.nodes.map (·.dump .plain))) =
      .ok template.nodes := list_map fun node member =>
    (isRead.nodes node member).read_plain_of_isPlain (isPlain.nodes node member)
  have edges : Edge.readList .document (.arr (template.edges.map (·.dump .plain))) =
      .ok template.edges := list_map fun edge member =>
    (isRead.edges edge member).read_plain_of_isPlain (isPlain.edges edge member)
  exact ⟨Reading.ok.inj (nodesRead.symm.trans nodes), Reading.ok.inj (edgesRead.symm.trans edges)⟩

theorem isPlain_of_sameGraph (stored : template.IsStored)
    (same : revised.withoutNulls.SameGraph template.withoutNulls) : template.IsPlain := by
  obtain ⟨nodesRead, edgesRead⟩ := readLists_of_revised proper only revises
  constructor
  · exact forall_of_forall₂_map (forall₂_of_items nodesRead) same.1 fun node member again reading own =>
      Node.isPlain_of_read_plain (stored.nodes node member) reading own
  · exact forall_of_forall₂_map (forall₂_of_items edgesRead) same.2 fun edge member again reading own =>
      Edge.isPlain_of_read_plain (stored.edges edge member) reading own

/-- A template that is revised has the drawing that it had if and only if it is plain. -/
theorem sameGraph_iff_isPlain (stored : template.IsStored) :
    (revised.SameGraph template ↔ template.IsPlain) ∧
      (revised.withoutNulls.SameGraph template.withoutNulls ↔ template.IsPlain) := by
  have up : revised.SameGraph template → revised.withoutNulls.SameGraph template.withoutNulls :=
    fun same => ⟨congrArg (List.map Node.withoutNulls) same.1, congrArg (List.map Edge.withoutNulls) same.2⟩
  have plain := isPlain_of_sameGraph proper only revises stored
  have exact_ := sameGraph_of_isPlain proper only revises stored.isRead
  exact ⟨⟨plain ∘ up, exact_⟩, ⟨plain, up ∘ exact_⟩⟩

theorem isStored_of_revised (clock : (Json.int now).IsProper) (stored : template.IsStored) :
    revised.IsStored := by
  obtain ⟨nodesRead, edgesRead⟩ := readLists_of_revised proper only revises
  have isRead :=
    (revised_spec stored.isRead (areChanges_of_captions proper only) clock revises).1
  refine ⟨isRead, fun node member => ?_, fun edge member => ?_⟩
  · obtain ⟨source, isSource, own⟩ := mem_of_items nodesRead node member
    obtain ⟨old, isOld, rfl⟩ := List.mem_map.mp isSource
    exact Node.isStored_of_read_plain (stored.nodes old isOld) own
  · obtain ⟨source, isSource, own⟩ := mem_of_items edgesRead edge member
    obtain ⟨old, isOld, rfl⟩ := List.mem_map.mp isSource
    exact Edge.isStored_of_read_plain (stored.edges old isOld) own

end

end Template

namespace TemplateStore

variable {rule : String → String → Prop} {store fresh after : TemplateStore} {now : Int}
  {templates : List Template}

theorem Keeps.isStored (keeps : store.Keeps rule) (clock : (Json.int now).IsProper)
    (held : store.saved now = .ok templates) : ∀ template ∈ templates, template.IsStored := by
  unfold TemplateStore.saved at held
  cases file : store.text with
  | none =>
      rw [file] at held
      cases held
      exact fun _ member => nomatch member
  | some text =>
      obtain ⟨written, rfl, fits, ruled⟩ := keeps text file
      have isRead : ∀ template ∈ written, template.IsRead := fun template member => (ruled template member).1
      rw [file] at held
      dsimp only at held
      rw [templatesOf_textOf isRead fits, Except.ok.injEq] at held
      subst held
      cases reading : Reading.items (Template.read now) 0 (written.map (·.dump .document)) with
      | refused issues => exact fun _ member => nomatch member
      | ok again =>
          intro template member
          obtain ⟨source, isSource, own⟩ := mem_of_items reading template member
          obtain ⟨old, isOld, rfl⟩ := List.mem_map.mp isSource
          exact Template.isStored_of_read_document clock (isRead old isOld) own

theorem saved_of_write (stored : ∀ template ∈ templates, template.IsStored)
    (writes : store.write templates = .ok after) (same : fresh.text = after.text) (later : Int) :
    fresh.saved later = .ok (templates.map (·.withoutNulls)) := by
  unfold write at writes
  split at writes
  · next fits =>
      cases writes
      unfold TemplateStore.saved
      rw [same]
      dsimp only
      rw [templatesOf_of_unshadowed (fun template member => (stored template member).isRead) fits
        (fun template member => (stored template member).unshadowed) later]
      exact congrArg Except.ok (List.map_congr_left fun template member =>
        (stored template member).documented_eq)
  · cases writes

/-- An update of the name, the description and the tags of a stored template, in a file that a store
wrote: the drawing stays as it is, be it up to undeclared nulls, if and only if the template is plain,
and what is there again is the template that the update gave, among all others as they were. -/
theorem update_leaves_graph {id : String} {changes : Fields} {revised : Template}
    (keeps : store.Keeps rule) (clock : (Json.int now).IsProper) (proper : (Json.obj changes).IsProper)
    (only : Fields.names changes ⊆ Template.captions)
    (updated : store.update now id changes = (.ok (some revised), after))
    (same : fresh.text = after.text) (later : Int) :
    ∃ earlier old others, store.Revises now id changes earlier old others revised after ∧
      (revised.SameGraph old ↔ old.IsPlain) ∧
      (revised.withoutNulls.SameGraph old.withoutNulls ↔ old.IsPlain) ∧
      fresh.saved later =
        .ok (earlier.map (·.withoutNulls) ++ revised.withoutNulls :: others.map (·.withoutNulls)) := by
  obtain ⟨none, -⟩ | ⟨earlier, old, others, _, own, revises⟩ := update_eq_ok updated
  · cases none
  · cases own
    have stored := keeps.isStored clock revises.held
    rw [List.forall_mem_append, List.forall_mem_cons] at stored
    obtain ⟨before, isStored, behind⟩ := stored
    obtain ⟨sameGraph, upToNulls⟩ :=
      Template.sameGraph_iff_isPlain proper only revises.revised isStored
    have again := Template.isStored_of_revised proper only revises.revised clock isStored
    refine ⟨earlier, old, others, revises, sameGraph, upToNulls, ?_⟩
    have saved := saved_of_write (List.forall_mem_append.mpr
      ⟨before, List.forall_mem_cons.mpr ⟨again, behind⟩⟩) revises.written same later
    rw [List.map_append, List.map_cons] at saved
    exact saved

/-! ## A bridge with a field beside its declared ones -/

def bridgingNode (name : String) (value : Json) : Node :=
  { Sample.bridge "b" 11155111 "5" with payloadExtras := [(name, value)] }

def bridgingNodes (name : String) (value : Json) : Json :=
  .arr [.obj [("id", .str "b"), ("type", .str "bridge"),
    ("data", .obj [("toChain", .int 11155111), ("amount", .str "5"), (name, value)])]]

/-- The store in which a drawing of such a bridge was saved. -/
def bridged (name : String) (value : Json) : TemplateStore :=
  (empty.save 1700000000000 "Plan" "" ⟨[bridgingNode name value], []⟩ none).2

/-- The template that it became. -/
def bridgedPlan (name : String) (value : Json) : Template :=
  ⟨"template-1700000000000-abcdefghi", "Plan", "", [bridgingNode name value], [], 1700000000000,
    1700000000000, none⟩

section

variable {name : String} {value : Json}

theorem text_bridged (fits : (bridgedPlan name value).fitsLevels = true) :
    (bridged name value).text = some (textOf [bridgedPlan name value]) := by
  have own : (⟨(empty.newId 1700000000000).1, "Plan", "", [bridgingNode name value], [],
      1700000000000, 1700000000000, none⟩ : Template) = bridgedPlan name value := by
    have id : (empty.newId 1700000000000).1 = "template-1700000000000-abcdefghi" := newId_first
    rw [id]
    rfl
  unfold bridged
  rw [save_eq holds_empty 1700000000000 "Plan" "" ⟨[bridgingNode name value], []⟩ none own, if_pos fits]
  rfl

theorem isRead_bridgedPlan (proper : (bridgingNodes name value).IsProper)
    (reads : Graph.readNodes (bridgingNodes name value) = .ok [bridgingNode name value]) :
    (bridgedPlan name value).IsRead where
  values := by
    simp only [ItemsProper, Template.plainValues, bridgedPlan, IsProper, Json.ofOption]
    decide
  nodes := Graph.isRead_of_readNodes proper reads
  edges := List.forall_mem_nil _

theorem keeps_bridged (fits : (bridgedPlan name value).fitsLevels = true)
    (isRead : (bridgedPlan name value).IsRead) : (bridged name value).Keeps fun _ _ => True := by
  intro text file
  rw [text_bridged fits, Option.some.injEq] at file
  refine ⟨[bridgedPlan name value], file.symm, ?_, List.forall_mem_singleton.mpr ⟨isRead, trivial⟩⟩
  rw [List.all_cons, fits]
  rfl

theorem unshadowed_bridgingNode
    (free : name ∉ ["status", "estimated_cost", "estimated_time", "from_chain", "token"]) :
    (bridgingNode name value).Unshadowed := by
  intro field member none taken
  have own : field.1.plain = name :=
    List.mem_singleton.mp ((names_documented_sublist [(name, value)]).subset taken)
  have all : (bridgingNode name value).declared =
      [(.same "label", .str ""), (.same "status", .null), (⟨"estimatedCost", "estimated_cost"⟩, .null),
        (⟨"estimatedTime", "estimated_time"⟩, .null), (⟨"toChain", "to_chain"⟩, .int 11155111),
        (.same "amount", .str "5"), (⟨"fromChain", "from_chain"⟩, .null), (.same "token", .null)] := rfl
  rw [all] at member
  rw [← own] at free
  simp only [List.mem_cons, List.not_mem_nil, or_false] at member
  rcases member with rfl | rfl | rfl | rfl | rfl | rfl | rfl | rfl <;> cases none <;>
    exact free (by decide)

theorem saved_bridged (fits : (bridgedPlan name value).fitsLevels = true)
    (isRead : (bridgedPlan name value).IsRead) (some_ : value ≠ .null) (finite : value.isFinite = true)
    (free : name ∉ ["status", "estimated_cost", "estimated_time", "from_chain", "token"]) (now : Int) :
    (bridged name value).saved now = .ok [bridgedPlan name value] := by
  have kept : (bridgingNode name value).IsKept := {
    extras := ⟨List.forall_mem_nil _, List.forall_mem_nil _⟩
    payload := ⟨List.forall_mem_singleton.mpr some_, List.forall_mem_singleton.mpr finite⟩
    parameters := fun _ given => nomatch given
    unshadowed := unshadowed_bridgingNode free }
  unfold TemplateStore.saved
  rw [text_bridged fits]
  exact (templatesOf_eq_iff (List.forall_mem_singleton.mpr isRead) (by rw [List.all_cons, fits]; rfl)
    now).mpr (List.forall_mem_singleton.mpr ⟨List.forall_mem_singleton.mpr kept, List.forall_mem_nil _⟩)

end

theorem isRead_noted : (bridgedPlan "note" (.str "slow")).IsRead := by
  have proper : (bridgingNodes "note" (.str "slow")).IsProper := by
    simp only [bridgingNodes, IsProper, ItemsProper, Json.FieldsProper, Fields.names, List.map_cons,
      List.map_nil]
    decide
  exact isRead_bridgedPlan proper rfl

theorem saved_noted (now : Int) :
    (bridged "note" (.str "slow")).saved now = .ok [bridgedPlan "note" (.str "slow")] :=
  saved_bridged rfl isRead_noted (fun same => by cases same) rfl (by decide) now

theorem isPlain_noted : (bridgedPlan "note" (.str "slow")).IsPlain := by
  have none : Kind.bridge.labels.any (·.plain == "note") = false := rfl
  refine ⟨List.forall_mem_singleton.mpr fun label isLabel taken => ?_, List.forall_mem_nil _⟩
  exact List.any_eq_false.mp none label isLabel (beq_iff_eq.mpr (List.mem_singleton.mp taken))

theorem update_leaves_graph_noted : ∃ earlier old others revised after,
    (bridged "note" (.str "slow")).Revises 1700000000001 "template-1700000000000-abcdefghi"
        [("name", .str "Renamed")] earlier old others revised after ∧
      revised.SameGraph old ∧ after.saved 1700000000002 =
        .ok (earlier.map (·.withoutNulls) ++ revised.withoutNulls :: others.map (·.withoutNulls)) := by
  have held := saved_noted 1700000000001
  have updated : (bridged "note" (.str "slow")).update 1700000000001 "template-1700000000000-abcdefghi"
      [("name", .str "Renamed")] = (.ok (some _), _) := Revises.update_eq
    { held, own := rfl, apart := List.forall_mem_nil _, revised := rfl, written := rfl } rfl
  have clock : (Json.int 1700000000001).IsProper := by
    unfold IsProper
    decide
  have changes : (Json.obj [("name", .str "Renamed")]).IsProper := by
    simp only [IsProper, Json.FieldsProper, Fields.names, List.map_cons, List.map_nil]
    decide
  obtain ⟨earlier, old, others, revises, exact_, -, again⟩ :=
    update_leaves_graph (keeps_bridged rfl isRead_noted) clock changes (by decide) updated rfl 1700000000002
  have plain : old.IsPlain := by
    have member : old ∈ [bridgedPlan "note" (.str "slow")] := by
      rw [Except.ok.inj (held.symm.trans revises.held)]
      exact List.mem_append_right earlier List.mem_cons_self
    rw [List.mem_singleton.mp member]
    exact isPlain_noted
  exact ⟨earlier, old, others, _, _, revises, exact_.mpr plain, again⟩

/-- A bridge that has a field with the plain name of its destination goes where this field says once
its template was renamed. -/
theorem update_reroutes : ∃ old revised after,
    Graph.readNodes (bridgingNodes "to_chain" (.int 84532)) = .ok old.nodes ∧
      (bridged "to_chain" (.int 84532)).saved 1700000000001 = .ok [old] ∧
      (bridged "to_chain" (.int 84532)).update 1700000000001 old.id [("name", .str "Renamed")] =
        (.ok (some revised), after) ∧
      old.nodes.map (fun node => node.bridge?.map (·.toChain)) = [some 11155111] ∧
      revised.nodes.map (fun node => node.bridge?.map (·.toChain)) = [some 84532] := by
  have proper : (bridgingNodes "to_chain" (.int 84532)).IsProper := by
    simp only [bridgingNodes, IsProper, ItemsProper, Json.FieldsProper, Fields.names, List.map_cons,
      List.map_nil]
    decide
  have isRead := isRead_bridgedPlan proper rfl
  have some_ : Json.int 84532 ≠ .null := fun same => by cases same
  have held := saved_bridged rfl isRead some_ rfl (by decide) 1700000000001
  have updated : (bridged "to_chain" (.int 84532)).update 1700000000001
      "template-1700000000000-abcdefghi" [("name", .str "Renamed")] = (.ok (some _), _) :=
    Revises.update_eq
      { held, own := rfl, apart := List.forall_mem_nil _, revised := rfl, written := rfl } rfl
  exact ⟨_, _, _, rfl, held, updated, rfl, rfl⟩

end TemplateStore

end ChainFlow
