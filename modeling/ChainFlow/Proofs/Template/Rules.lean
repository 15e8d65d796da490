import ChainFlow.Api.Body
import ChainFlow.Proofs.Graph.Roundtrip
import ChainFlow.Proofs.Template.Tracking

/-!
# Rules for new templates

A template whose nodes and edges were read can be sent as a new one if and only if its name can
(`isCreatable_iff`): they are read again as they are. A file whose templates were all read keeps them so
under every change (`Keeps`), and a rule for names and ids with them. The rule for names of new templates is
none of these: an update gives a template any name (`Holds.saved_renamed`).
-/

namespace ChainFlow

open Schema
open Json (IsProper ItemsProper FieldsProper)
open Text (IsJoined)

/-- The names in documents, with null fields and all numbers. -/
def Schema.Style.lossless : Style := ⟨true, false, true⟩

variable {node : Node} {edge : Edge} {template : Template}

/-! ## Sent as new -/

theorem Node.IsRead.read_dump (isRead : node.IsRead) (source : Source) :
    Node.read source (node.dump .lossless) = .ok node := by
  have apart := isRead.isFormed.payload
  exact Node.read_dump_full rfl isRead.isFormed
    (separates_of_wire rfl node.kind.wellNamed_labels apart) (Node.keptBy_of_exact rfl node) source

theorem Edge.IsRead.read_dump (isRead : edge.IsRead) (source : Source) :
    Edge.read source (edge.dump .lossless) = .ok edge := by
  have others := isRead.extras.toAreOthers
  exact Edge.read_dump_full rfl others (separates_of_wire rfl Edge.wellNamed_labels others)
    (Style.keeps_of_forall fun _ _ => Style.untyped_of_exact rfl _) source

/-- Whether a new template can have a name. -/
def IsName (name : String) : Prop := Text.hasLone name = false ∧ name ≠ ""

theorem someText_eq_ok {value : Json} {name : String} :
    Api.someText value = .ok name ↔ value = .str name ∧ IsName name := by
  cases value with
  | str own =>
      have reading : text (.str own) = .ok own := rfl
      simp only [Api.someText, reading, Reading.andThen, IsName]
      by_cases lone : Text.hasLone own = true
      · rw [if_pos lone]
        constructor
        · intro refused
          cases refused
        · rintro ⟨same, whole, _⟩
          cases same
          rw [lone] at whole
          cases whole
      · rw [if_neg lone]
        by_cases none : own.isEmpty = true
        · rw [if_pos none]
          constructor
          · intro refused
            cases refused
          · rintro ⟨same, _, some_⟩
            cases same
            exact absurd (String.isEmpty_iff.mp none) some_
        · rw [if_neg none]
          constructor
          · intro same
            cases same
            exact ⟨rfl, Bool.eq_false_of_not_eq_true lone, mt String.isEmpty_iff.mpr none⟩
          · rintro ⟨same, _⟩
            cases same
            rfl
  | _ =>
      constructor
      · intro refused
        cases refused
      · rintro ⟨same, _⟩
        cases same

namespace Template

/-- Whether a template is accepted as it is when it is sent as a new one. -/
def IsCreatable (template : Template) : Prop :=
  Api.Draft.read (template.dump .lossless) =
    .ok ⟨template.name, template.description, ⟨template.nodes, template.edges⟩, template.tags⟩

theorem isCreatable_iff (nodesRead : ∀ node ∈ template.nodes, node.IsRead)
    (edgesRead : ∀ edge ∈ template.edges, edge.IsRead) :
    template.IsCreatable ↔ IsName template.name := by
  have nodes : Node.readList .request (.arr (template.nodes.map (·.dump .lossless))) =
      .ok template.nodes := list_map fun node member => (nodesRead node member).read_dump .request
  have edges : Edge.readList .request (.arr (template.edges.map (·.dump .lossless))) =
      .ok template.edges := list_map fun edge member => (edgesRead edge member).read_dump .request
  have tags := rereads_tags.nullable template.tags
  have read : Api.Draft.read (template.dump .lossless) =
      (((((fun name description nodes edges tags =>
          (⟨name, description, ⟨nodes, edges⟩, tags⟩ : Api.Draft))
        <$> (Api.someText (.str template.name)).under (.field "name"))
        <*> (text (.str template.description)).under (.field "description"))
        <*> (Node.readList .request (.arr (template.nodes.map (·.dump .lossless)))).under
          (.field "nodes"))
        <*> (Edge.readList .request (.arr (template.edges.map (·.dump .lossless)))).under
          (.field "edges"))
        <*> (nullable (list text)
          (.ofOption (fun tags => .arr (tags.map .str)) template.tags)).under (.field "tags") := rfl
  rw [IsCreatable, read, nodes, edges, tags]
  cases named : Api.someText (.str template.name) with
  | ok name =>
      obtain ⟨same, isName⟩ := someText_eq_ok.mp named
      cases same
      exact iff_of_true rfl isName
  | refused issues =>
      refine iff_of_false nofun fun isName => ?_
      cases named.symm.trans (someText_eq_ok.mpr ⟨rfl, isName⟩)

end Template

/-! ## The plain form -/

theorem Json.isProper_merge {fields changes : Fields} (distinct : (Fields.names fields).Nodup)
    (own : FieldsProper fields) (others : FieldsProper changes) :
    (Json.obj (Fields.merge fields changes)).IsProper := by
  refine ⟨Fields.nodup_merge distinct changes, Json.fieldsProper_iff.mpr fun field member => ?_⟩
  rcases Fields.mem_merge member with old | new
  · exact Json.fieldsProper_iff.mp own field old
  · exact Json.fieldsProper_iff.mp others field new

theorem Json.isProper_put {fields : Fields} (proper : (Json.obj fields).IsProper) {name : String}
    (joined : IsJoined name.toList) {value : Json} (isProper : value.IsProper) :
    (Json.obj (Fields.put fields name value)).IsProper := by
  refine ⟨Fields.nodup_put proper.1 name value, Json.fieldsProper_iff.mpr fun field member => ?_⟩
  rcases Fields.mem_put member with old | rfl
  · exact Json.fieldsProper_iff.mp proper.2 field old
  · exact ⟨joined, isProper⟩

theorem isProper_plainRecord {declared : List (Label × Json)} {extras : Fields}
    (plain : PlainNamed (declared.map (·.1))) (values : ∀ field ∈ declared, field.2.IsProper)
    (others : FieldsProper extras) : (Json.obj (plainRecord declared extras)).IsProper := by
  have names : Fields.names (declared.map fun field => (field.1.plain, field.2)) =
      (declared.map (·.1)).map (·.plain) := by
    simp [Fields.names]
  refine Json.isProper_merge (names ▸ plain.distinct) (Json.fieldsProper_iff.mpr ?_) others
  intro field member
  obtain ⟨⟨label, value⟩, isDeclared, rfl⟩ := List.mem_map.mp member
  have isLabel : label ∈ declared.map (·.1) := List.mem_map_of_mem (f := Prod.fst) isDeclared
  exact ⟨Text.isJoined_of_hasLone (plain.whole label isLabel), values _ isDeclared⟩

theorem Node.plainNamed_labels : PlainNamed Node.labels := ⟨by decide, by decide, by decide⟩

theorem Node.dumpPayload_plain (node : Node) :
    node.dumpPayload .plain = .obj (plainRecord node.declared node.payloadExtras) := by
  unfold Node.dumpPayload
  rw [plain_untypedFields, plain_untypedFields]
  rfl

theorem Node.IsRead.isProper_plain (isRead : node.IsRead) : (node.dump .plain).IsProper := by
  have labels := Node.map_fst_declared isRead.overrides
  have payload : (node.dumpPayload .plain).IsProper := by
    rw [Node.dumpPayload_plain]
    refine isProper_plainRecord (labels ▸ node.kind.plainNamed_labels) ?_ isRead.payload.proper
    intro field member
    rw [Node.declared_of_overrides isRead.overrides] at member
    exact Node.isProper_values isRead field.2 (List.of_mem_zip member).2
  unfold Node.dump
  rw [record_plain]
  refine isProper_plainRecord Node.plainNamed_labels ?_ isRead.extras.proper
  simp only [List.forall_mem_cons, List.not_mem_nil, false_imp_iff, implies_true, and_true]
  exact ⟨isRead.id, Node.isProper_dumpPlace isRead.place.1 isRead.place.2,
    Node.isJoined_tag node.kind, payload⟩

theorem Edge.IsRead.isProper_plain (isRead : edge.IsRead) : (edge.dump .plain).IsProper := by
  have plain : PlainNamed ((Edge.labels.zip edge.values).map (·.1)) := Edge.plainNamed_labels
  unfold Edge.dump
  rw [record_plain]
  refine isProper_plainRecord plain (fun field member => ?_) isRead.extras.proper
  exact Json.itemsProper_iff.mp isRead.values field.2 (List.of_mem_zip member).2

/-! ## Revising -/

namespace Template

/-- Updates that set no other fields than a request can. -/
structure AreChanges (changes : Fields) : Prop where
  proper : (Json.obj changes).IsProper
  settable : Fields.names changes ⊆ settable

theorem IsRead.isProper_plainFields (isRead : template.IsRead) :
    (Json.obj template.plainFields).IsProper := by
  obtain ⟨id, name, description, created, updated, tags, -⟩ := isRead.values
  have nodes : ItemsProper (template.nodes.map (·.dump .plain)) := by
    refine Json.itemsProper_iff.mpr fun item member => ?_
    obtain ⟨node, isNode, rfl⟩ := List.mem_map.mp member
    exact (isRead.nodes node isNode).isProper_plain
  have edges : ItemsProper (template.edges.map (·.dump .plain)) := by
    refine Json.itemsProper_iff.mpr fun item member => ?_
    obtain ⟨edge, isEdge, rfl⟩ := List.mem_map.mp member
    exact (isRead.edges edge isEdge).isProper_plain
  have joined : ∀ name ∈ Fields.names template.plainFields, IsJoined name.toList := by
    simp only [plainFields, Fields.names_cons, Fields.names_nil, List.forall_mem_cons,
      List.not_mem_nil, false_imp_iff, implies_true, and_true]
    decide
  have values : ∀ field ∈ template.plainFields, field.2.IsProper := by
    simp only [plainFields, List.forall_mem_cons, List.not_mem_nil, false_imp_iff, implies_true,
      and_true]
    exact ⟨id, name, description, nodes, edges, created, updated, tags⟩
  have distinct : (Fields.names template.plainFields).Nodup := by
    simp only [plainFields, Fields.names_cons, Fields.names_nil]
    decide
  exact ⟨distinct, Json.fieldsProper_iff.mpr fun field member =>
    ⟨joined _ (Fields.mem_names member), values field member⟩⟩

theorem get?_of_required {fields : Fields} {name own : String}
    (reading : required fields (.same name) text = .ok own) : fields.get? name = some (.str own) := by
  unfold required at reading
  rw [Label.found?_same] at reading
  cases found : fields.get? name with
  | none =>
      rw [found] at reading
      cases reading
  | some value =>
      rw [found] at reading
      have isRead := Reading.under_eq_ok_iff.mp reading
      cases value <;> cases isRead
      rfl

theorem revised_spec {changes : Fields} {now : Int} {revised : Template} (isRead : template.IsRead)
    (areChanges : AreChanges changes) (clock : (Json.int now).IsProper)
    (revises : TemplateStore.revised template changes now = .ok revised) :
    revised.IsRead ∧ revised.id = template.id ∧
      (revised.name = template.name ∨ changes.get? "name" = some (.str revised.name)) := by
  have absent : ∀ name ∉ settable, name ∉ Fields.names changes :=
    fun name other taken => other (areChanges.settable taken)
  have proper : (Json.obj (template.overlaid changes now)).IsProper := by
    have own := isRead.isProper_plainFields
    exact Json.isProper_put (Json.isProper_merge own.1 own.2 areChanges.proper.2) (by decide) clock
  rw [revised_eq_read, Fields.erase_of_not_mem (absent "id" (by decide)),
    Fields.erase_of_not_mem (absent "created_at" (by decide))] at revises
  have reading : Template.read now (.obj (template.overlaid changes now)) = .ok revised :=
    ofReading_eq_ok revises
  refine ⟨isRead_of_read clock proper reading, ?_⟩
  obtain ⟨_, tags, seven, -, rfl⟩ := Reading.apply_eq_ok_iff.mp reading
  obtain ⟨_, updated, six, -, rfl⟩ := Reading.apply_eq_ok_iff.mp seven
  obtain ⟨_, created, five, -, rfl⟩ := Reading.apply_eq_ok_iff.mp six
  obtain ⟨_, edges, four, -, rfl⟩ := Reading.apply_eq_ok_iff.mp five
  obtain ⟨_, nodes, three, -, rfl⟩ := Reading.apply_eq_ok_iff.mp four
  obtain ⟨_, description, two, -, rfl⟩ := Reading.apply_eq_ok_iff.mp three
  obtain ⟨_, name, one, nameRead, rfl⟩ := Reading.apply_eq_ok_iff.mp two
  obtain ⟨id, idRead, rfl⟩ := Reading.map_eq_ok_iff.mp one
  have ownId := get?_of_required idRead
  have ownName := get?_of_required nameRead
  rw [get?_overlaid areChanges.proper.1 (by decide), Fields.get?_eq_none.mpr (absent "id" (by decide)), Option.none_or]
    at ownId
  rw [get?_overlaid areChanges.proper.1 (by decide)] at ownName
  constructor
  · cases ownId
    rfl
  · rcases Option.or_eq_some_iff.mp ownName with given | ⟨-, kept⟩
    · exact .inr given
    · cases kept
      exact .inl rfl

end Template

/-! ## Files -/

namespace TemplateStore

variable {rule : String → String → Prop} {store : TemplateStore} {now : Int}

/-- Whether a template was read and keeps a rule for its id and its name. -/
def IsRuled (rule : String → String → Prop) (template : Template) : Prop :=
  template.IsRead ∧ rule template.id template.name

/-- Whether a file, if there is one, holds nothing but templates that were read and keep a rule. -/
def Keeps (rule : String → String → Prop) (store : TemplateStore) : Prop :=
  ∀ text, store.text = some text → ∃ templates, text = textOf templates ∧
    templates.all (·.fitsLevels) = true ∧ ∀ template ∈ templates, IsRuled rule template

/-- What is read from a file has the ids and names that were written. -/
theorem Keeps.saved (keeps : store.Keeps rule) (clock : (Json.int now).IsProper) :
    ∃ templates, store.saved now = .ok templates ∧
      ∀ template ∈ templates, IsRuled rule template := by
  unfold TemplateStore.saved
  cases file : store.text with
  | none => exact ⟨[], rfl, fun _ member => nomatch member⟩
  | some text =>
      obtain ⟨written, rfl, fits, ruled⟩ := keeps text file
      refine ⟨_, templatesOf_textOf (fun template member => (ruled template member).1) fits now, ?_⟩
      cases reading : Reading.items (Template.read now) 0 (written.map (·.dump .document)) with
      | refused issues => exact fun _ member => nomatch member
      | ok again =>
          intro template member
          obtain ⟨source, isSource, isRead⟩ := mem_of_items reading template member
          obtain ⟨old, isOld, rfl⟩ := List.mem_map.mp isSource
          obtain ⟨oldRead, oldRule⟩ := ruled old isOld
          refine ⟨Template.isRead_of_read clock (Template.isProper_dump oldRead) isRead, ?_⟩
          rw [Template.read_dump_eq] at isRead
          obtain ⟨_, edges, one, -, rfl⟩ := Reading.apply_eq_ok_iff.mp isRead
          obtain ⟨nodes, -, rfl⟩ := Reading.map_eq_ok_iff.mp one
          exact oldRule

theorem keeps_write {templates : List Template} {after : TemplateStore}
    (ruled : ∀ template ∈ templates, IsRuled rule template)
    (writes : store.write templates = .ok after) : after.Keeps rule := by
  unfold write at writes
  split at writes
  · next fits =>
      cases writes
      intro text file
      cases file
      exact ⟨templates, rfl, fits, ruled⟩
  · cases writes

theorem Keeps.orUnchanged {α : Type} (keeps : store.Keeps rule)
    {result : Except Fault (α × TemplateStore)}
    (done : ∀ value after, result = .ok (value, after) → after.Keeps rule) :
    (store.orUnchanged result).2.Keeps rule := by
  cases result with
  | error fault => exact keeps
  | ok change => exact done change.1 change.2 rfl

theorem Keeps.save (keeps : store.Keeps rule) (clock : (Json.int now).IsProper)
    {name description : String} {graph : Graph} {tags : Option (List String)}
    (texts : ItemsProper
      [.str name, .str description, .ofOption (fun tags => .arr (tags.map .str)) tags])
    (nodes : ∀ node ∈ graph.nodes, node.IsRead) (edges : ∀ edge ∈ graph.edges, edge.IsRead)
    (named : ∀ id, rule id name) :
    (store.save now name description graph tags).2.Keeps rule := by
  have drawn : (store.newId now).2.Keeps rule := keeps
  have ruled : IsRuled rule
      ⟨(store.newId now).1, name, description, graph.nodes, graph.edges, now, now, tags⟩ := by
    obtain ⟨isName, isDescription, isTags, -⟩ := texts
    exact ⟨⟨⟨isJoined_newId store now, isName, isDescription, clock, clock, isTags, trivial⟩,
      nodes, edges⟩, named _⟩
  refine drawn.orUnchanged fun value after adds => ?_
  obtain ⟨_, added, same⟩ := Except.map_eq_ok adds
  cases same
  obtain ⟨before, held, writes⟩ := Except.bind_eq_ok added
  obtain ⟨own, isOwn, all⟩ := drawn.saved clock
  cases isOwn.symm.trans held
  exact keeps_write (List.forall_mem_append.mpr ⟨all, List.forall_mem_singleton.mpr ruled⟩) writes

theorem reviseFirst_eq_some {id : String} {revise : Template → Except Fault Template}
    {templates changed : List Template} {template : Template}
    (revises : reviseFirst id revise templates = some (.ok (template, changed))) :
    ∃ earlier old later, old.id = id ∧ (∀ other ∈ earlier, other.id ≠ id) ∧
      templates = earlier ++ old :: later ∧ revise old = .ok template ∧
      changed = earlier ++ template :: later := by
  induction templates generalizing changed with
  | nil => cases revises
  | cons first rest ih =>
      unfold reviseFirst at revises
      split at revises
      · next own =>
          obtain ⟨_, isRevised, same⟩ := Except.map_eq_ok (Option.some.inj revises)
          cases same
          exact ⟨[], first, rest, own, List.forall_mem_nil _, rfl, isRevised, rfl⟩
      · next other =>
          obtain ⟨result, isResult, mapped⟩ := Option.map_eq_some_iff.mp revises
          obtain ⟨⟨revised, others⟩, isOk, same⟩ := Except.map_eq_ok mapped
          cases isOk
          cases same
          obtain ⟨earlier, old, later, own, apart, rfl, isRevised, rfl⟩ := ih isResult
          exact ⟨first :: earlier, old, later, own, List.forall_mem_cons.mpr ⟨other, apart⟩, rfl,
            isRevised, rfl⟩

/-- How an update comes to a template: it revises the first one of an id, among those before and after
it, and writes all of them. -/
structure Revises (store : TemplateStore) (now : Int) (id : String) (changes : Fields)
    (earlier : List Template) (old : Template) (later : List Template) (template : Template)
    (after : TemplateStore) : Prop where
  held : store.saved now = .ok (earlier ++ old :: later)
  own : old.id = id
  apart : ∀ other ∈ earlier, other.id ≠ id
  revised : revised old changes now = .ok template
  written : store.write (earlier ++ template :: later) = .ok after

theorem besides_eq_ok {operation : String} {arguments : List String} {fields given : Fields}
    (free : besides operation arguments fields = .ok given) : given = fields := by
  unfold besides at free
  split at free
  · cases free
  · cases free
    rfl

theorem update_eq_ok {id : String} {changes : Fields} {result : Option Template}
    {after : TemplateStore} (updates : store.update now id changes = (.ok result, after)) :
    result = none ∧ after = store ∨ ∃ earlier old later template,
      result = some template ∧ store.Revises now id changes earlier old later template after := by
  unfold TemplateStore.update orUnchanged at updates
  split at updates
  · next _ value changed done =>
      cases updates
      obtain ⟨given, isGiven, found⟩ := Except.bind_eq_ok done
      obtain ⟨before, held, revision⟩ := Except.bind_eq_ok found
      obtain rfl := besides_eq_ok isGiven
      split at revision
      · cases revision
        exact .inl ⟨rfl, rfl⟩
      · next result isResult =>
          obtain ⟨⟨template, all⟩, rfl, writes⟩ := Except.bind_eq_ok revision
          obtain ⟨_, written, ends⟩ := Except.bind_eq_ok writes
          cases ends
          obtain ⟨earlier, old, later, own, apart, rfl, revised, rfl⟩ := reviseFirst_eq_some isResult
          exact .inr ⟨earlier, old, later, template, rfl, held, own, apart, revised, written⟩
  · cases updates

theorem reviseFirst_append {id : String} (revise : Template → Except Fault Template)
    {earlier : List Template} {old : Template} (own : old.id = id)
    (apart : ∀ other ∈ earlier, other.id ≠ id) (later : List Template) :
    reviseFirst id revise (earlier ++ old :: later) =
      some ((revise old).map fun revised => (revised, earlier ++ revised :: later)) := by
  induction earlier with
  | nil =>
      rw [List.nil_append, reviseFirst, if_pos own]
      rfl
  | cons first earlier ih =>
      obtain ⟨other, others⟩ := List.forall_mem_cons.mp apart
      rw [List.cons_append, reviseFirst, if_neg other, ih others]
      cases revise old <;> rfl

theorem Revises.update_eq {id : String} {changes : Fields} {earlier later : List Template}
    {old template : Template} {after : TemplateStore}
    (revises : store.Revises now id changes earlier old later template after)
    (free : besides "TemplateService.update_template" ["self", "template_id"] changes = .ok changes) :
    store.update now id changes = (.ok (some template), after) := by
  have found : reviseFirst id (TemplateStore.revised · changes now) (earlier ++ old :: later) =
      some (.ok (template, earlier ++ template :: later)) := by
    rw [reviseFirst_append _ revises.own revises.apart, revises.revised]
    rfl
  unfold TemplateStore.update
  rw [free, revises.held]
  simp only [bind, Except.bind, found, revises.written]
  rfl

theorem Keeps.update (keeps : store.Keeps rule) (clock : (Json.int now).IsProper) {id : String}
    {changes : Fields} (areChanges : Template.AreChanges changes)
    (named : ∀ name, changes.get? "name" = some (.str name) → rule id name) :
    (store.update now id changes).2.Keeps rule := by
  rcases updates : store.update now id changes with ⟨fault | result, after⟩
  · have same : (store.update now id changes).2 = store :=
      orUnchanged_of_error (congrArg Prod.fst updates)
    rw [updates] at same
    exact same ▸ keeps
  · obtain ⟨-, rfl⟩ | ⟨earlier, old, later, template, rfl, revises⟩ := update_eq_ok updates
    · exact keeps
    · obtain ⟨own, isOwn, all⟩ := keeps.saved clock
      cases isOwn.symm.trans revises.held
      refine keeps_write ?_ revises.written
      rw [List.forall_mem_append, List.forall_mem_cons] at all ⊢
      obtain ⟨isRead, isId, isName⟩ :=
        Template.revised_spec all.2.1.1 areChanges clock revises.revised
      refine ⟨all.1, ⟨isRead, ?_⟩, all.2.2⟩
      rw [isId, revises.own]
      rcases isName with kept | new
      · rw [kept, ← revises.own]
        exact all.2.1.2
      · exact named _ new

theorem Keeps.delete (keeps : store.Keeps rule) (clock : (Json.int now).IsProper) (id : String) :
    (store.delete now id).2.Keeps rule := by
  refine keeps.orUnchanged fun value after deletes => ?_
  obtain ⟨before, held, rest⟩ := Except.bind_eq_ok deletes
  obtain ⟨own, isOwn, all⟩ := keeps.saved clock
  cases isOwn.symm.trans held
  dsimp only at rest
  split at rest
  · cases rest
    exact keeps
  · obtain ⟨_, written, ends⟩ := Except.bind_eq_ok rest
    cases ends
    exact keeps_write (fun template member => all template (List.mem_of_mem_filter member)) written

/-! ## Renaming -/

theorem areUpdates_name {name : String} (joined : IsJoined name.toList) :
    Template.AreUpdates [("name", .str name)] where
  proper := ⟨List.nodup_singleton _, by decide, joined, trivial⟩
  settable := List.cons_subset.mpr ⟨List.mem_cons_self, List.nil_subset _⟩
  nodes _ given := by simp at given
  edges _ given := by simp at given

/-- A template that is in a store can be given any name, also one that no new template can have. -/
theorem Holds.saved_renamed {templates : List Template} {template : Template}
    (holds : store.Holds templates) (distinct : (templates.map (·.id)).Nodup)
    (clock : (Json.int now).IsProper) (found : templates.find? (·.id == template.id) = some template)
    {name : String} (joined : IsJoined name.toList) (later : Int) :
    (store.update now template.id [("name", .str name)]).2.saved later =
      .ok (templates.map fun old =>
        if old.id = template.id then { template with name, updated := now } else old) := by
  have tracks : store.Tracks ⟨templates, store.drawn⟩ := ⟨holds, rfl⟩
  have updated := (tracks_update tracks distinct clock template.id (areUpdates_name joined)).2
  have amends : ofReading Template.record (template.amended [("name", .str name)] now) =
      .ok { template with name, updated := now } := rfl
  have fits : ({ template with name, updated := now } : Template).fitsLevels = true :=
    List.all_eq_true.mp holds.fits template (List.mem_of_find?_eq_some found)
  rw [updated.saved later]
  simp only [Ledger.update, found, amends, if_pos fits]
  rfl

/-! ## A template without nodes -/

theorem newId_first : Ledger.newId ⟨[], 0⟩ 1700000000000 = "template-1700000000000-abcdefghi" := by
  decide +kernel

theorem holds_empty : empty.Holds [] := ⟨.inl ⟨rfl, rfl⟩, List.forall_mem_nil _, rfl⟩

/-- A store in which a template without nodes was saved. -/
def planned : TemplateStore := (TemplateStore.empty.save 1700000000000 "Plan" "" ⟨[], []⟩ none).2

theorem holds_planned : planned.Holds
    [⟨"template-1700000000000-abcdefghi", "Plan", "", [], [], 1700000000000, 1700000000000, none⟩] := by
  have texts : ItemsProper [.str "Plan", .str "", .ofOption
      (fun tags : List String => .arr (tags.map .str)) none] := by
    simp only [Json.ItemsProper, Json.IsProper, Json.ofOption]
    decide
  have drawn : (⟨[], []⟩ : Graph).IsDrawn := {
    nodes := ⟨.arr [], ⟨trivial, by rintro items ⟨⟩; exact List.forall_mem_nil _⟩, rfl, rfl⟩
    edges := ⟨.arr [], ⟨trivial, by rintro items ⟨⟩; exact List.forall_mem_nil _⟩, rfl, rfl⟩ }
  have empty : TemplateStore.empty.Tracks ⟨[], 0⟩ := ⟨holds_empty, rfl⟩
  have saved := (tracks_save empty isProper_moment texts drawn).2.toHolds
  rw [Ledger.save, newId_first] at saved
  exact saved

end TemplateStore

end ChainFlow
