import ChainFlow.Proofs.Template.Canvas

/-!
# Templates that are revised

A template is revised by writing it under plain names, laying the updates over it and reading the
result. For what the canvas draws this comes to reading each update in place of the template's own
value (`revised_eq`).
-/

namespace ChainFlow

open Schema
open Json (ItemsProper)

/-! ## Fields laid over others -/

section

variable {α : Type} {read : Json → Reading α} {fields updates : Fields} {name : String}

theorem Label.found?_same (fields : Fields) (name : String) :
    (Label.same name).found? fields = (fields.get? name).map fun value => (name, value) := by
  unfold Label.found?
  dsimp only [Label.same]
  cases fields.get? name <;> rfl

theorem withDefault_of_or {old : Json} {value : α} (default : α)
    (held : fields.get? name = (updates.get? name).or (some old)) (reads : read old = .ok value) :
    withDefault fields (.same name) default read = withDefault updates (.same name) value read := by
  unfold withDefault
  rw [Label.found?_same, Label.found?_same, held]
  cases updates.get? name with
  | some value => rfl
  | none =>
      simp only [Option.none_or, Option.map_some, Option.map_none]
      rw [reads]
      rfl

theorem required_of_or {old : Json} {value : α}
    (held : fields.get? name = (updates.get? name).or (some old)) (reads : read old = .ok value) :
    required fields (.same name) read = withDefault updates (.same name) value read := by
  rw [← withDefault_of_or value held reads]
  unfold required withDefault
  rw [Label.found?_same, held]
  cases updates.get? name <;> rfl

theorem withDefault_of_none {value : α} (absent : updates.get? name = none) :
    withDefault updates (.same name) value read = .ok value := by
  unfold withDefault
  rw [Label.found?_same, absent]
  rfl

theorem eq_or_mem_of_withDefault {default value : α}
    (reading : withDefault updates (.same name) default read = .ok value) :
    value = default ∨ ∃ source, (name, source) ∈ updates ∧ read source = .ok value := by
  unfold withDefault at reading
  rw [Label.found?_same] at reading
  cases found : updates.get? name with
  | none =>
      rw [found] at reading
      cases reading
      exact .inl rfl
  | some source =>
      rw [found] at reading
      exact .inr ⟨source, Fields.mem_of_get? found, Reading.under_eq_ok_iff.mp reading⟩

end

namespace Template

/-- A template with what is read from updates in place of its own values. -/
def amended (template : Template) (updates : Fields) (now : Int) : Reading Template :=
  (fun name description nodes edges tags =>
      { template with name, description, nodes, edges, updated := now, tags })
    <$> withDefault updates (.same "name") template.name text
    <*> withDefault updates (.same "description") template.description text
    <*> withDefault updates (.same "nodes") template.nodes (Node.readList .document)
    <*> withDefault updates (.same "edges") template.edges (Edge.readList .document)
    <*> withDefault updates (.same "tags") template.tags (nullable (list text))

def settable : List String := ["name", "description", "nodes", "edges", "tags"]

/-- Updates of a template as the canvas gives them, with finite numbers. -/
structure AreUpdates (updates : Fields) : Prop where
  proper : (Json.obj updates).IsProper
  settable : Fields.names updates ⊆ settable
  nodes : ∀ source, ("nodes", source) ∈ updates →
    IsDrawing Node.Drawn source ∧ source.isFinite = true
  edges : ∀ source, ("edges", source) ∈ updates →
    IsDrawing Edge.Drawn source ∧ source.isFinite = true

variable {template result : Template} {updates : Fields} {now : Int}

theorem get?_of_settable (only : Fields.names updates ⊆ Template.settable) {name : String}
    (other : name ∉ Template.settable) : updates.get? name = none :=
  Fields.get?_eq_none.mpr fun taken => other (only taken)

/-! ## The plain form -/

def plainFields (template : Template) : Fields :=
  [("id", .str template.id), ("name", .str template.name),
    ("description", .str template.description),
    ("nodes", .arr (template.nodes.map (·.dump .plain))),
    ("edges", .arr (template.edges.map (·.dump .plain))),
    ("created_at", .int template.created), ("updated_at", .int template.updated),
    ("tags", .ofOption (fun tags => .arr (tags.map .str)) template.tags)]

/-- The plain form with updates laid over it. -/
def overlaid (template : Template) (updates : Fields) (now : Int) : Fields :=
  Fields.put (Fields.merge template.plainFields updates) "updated_at" (.int now)

theorem get?_overlaid (distinct : (Fields.names updates).Nodup) {name : String}
    (other : name ≠ "updated_at") :
    Fields.get? (template.overlaid updates now) name =
      (updates.get? name).or (template.plainFields.get? name) := by
  unfold overlaid
  rw [Fields.get?_put, if_neg other, Fields.get?_merge distinct]

/-- A template is revised by reading its plain form with what is left of the updates laid over it. -/
theorem revised_eq_read (template : Template) (updates : Fields) (now : Int) :
    TemplateStore.revised template updates now = ofReading Template.record (Template.read now
      (.obj (template.overlaid ((updates.erase "id").erase "created_at") now))) := rfl

section

variable (distinct : (Fields.names updates).Nodup) (only : Fields.names updates ⊆ settable)

include distinct only

theorem created_overlaid :
    Label.valueIn ⟨"createdAt", "created_at"⟩ (template.overlaid updates now) =
      .int template.created := by
  have wire : Fields.get? (template.overlaid updates now) "createdAt" = none := by
    rw [get?_overlaid distinct (by decide), get?_of_settable only (by decide)]
    rfl
  have plain : Fields.get? (template.overlaid updates now) "created_at" =
      some (.int template.created) := by
    rw [get?_overlaid distinct (by decide), get?_of_settable only (by decide)]
    rfl
  unfold Label.valueIn Label.found?
  rw [wire, plain]
  rfl

theorem updated_overlaid :
    Label.valueIn ⟨"updatedAt", "updated_at"⟩ (template.overlaid updates now) = .int now := by
  have wire : Fields.get? (template.overlaid updates now) "updatedAt" = none := by
    rw [get?_overlaid distinct (by decide), get?_of_settable only (by decide)]
    rfl
  have plain : Fields.get? (template.overlaid updates now) "updated_at" = some (.int now) := by
    rw [overlaid, Fields.get?_put, if_pos rfl]
  unfold Label.valueIn Label.found?
  rw [wire, plain]
  rfl

variable (nodesRead : ∀ node ∈ template.nodes, Node.read .document (node.dump .plain) = .ok node)
  (edgesRead : ∀ edge ∈ template.edges, Edge.read .document (edge.dump .plain) = .ok edge)

include nodesRead edgesRead

theorem read_overlaid :
    Template.read now (.obj (template.overlaid updates now)) = template.amended updates now := by
  have nodes : Node.readList .document (.arr (template.nodes.map (·.dump .plain))) =
      .ok template.nodes := list_map nodesRead
  have edges : Edge.readList .document (.arr (template.edges.map (·.dump .plain))) =
      .ok template.edges := list_map edgesRead
  have absent : ∀ {name : String}, name ∉ settable → updates.get? name = none := get?_of_settable only
  have held : ∀ {name : String}, name ≠ "updated_at" →
      Fields.get? (template.overlaid updates now) name =
        (updates.get? name).or (template.plainFields.get? name) := get?_overlaid distinct
  have rereads : ∀ own : String, text (.str own) = .ok own := fun _ => rfl
  unfold Template.read
  simp only [object, Reading.andThen]
  unfold Schema.optional
  rw [required_of_or (held (by decide)) (rereads template.id), withDefault_of_none (absent (by decide)),
    required_of_or (held (by decide)) (rereads template.name),
    withDefault_of_or "" (held (by decide)) (rereads template.description),
    withDefault_of_or [] (held (by decide)) nodes, withDefault_of_or [] (held (by decide)) edges,
    rereads_integer.withDefault now (created_overlaid distinct only),
    rereads_integer.withDefault now (updated_overlaid distinct only),
    withDefault_of_or none (held (by decide)) (rereads_tags.nullable template.tags)]
  unfold amended
  generalize withDefault updates (.same "name") _ _ = name
  generalize withDefault updates (.same "description") _ _ = description
  generalize withDefault updates (.same "nodes") _ _ = nodes
  generalize withDefault updates (.same "edges") _ _ = edges
  generalize withDefault updates (.same "tags") _ _ = tags
  cases name <;> cases description <;> cases nodes <;> cases edges <;> cases tags <;> rfl

/-- Where nodes and edges are read again from their plain forms, updates are read in place of the values
that they are for. -/
theorem revised_eq_amended (now : Int) :
    TemplateStore.revised template updates now =
      ofReading Template.record (template.amended updates now) := by
  have absent : ∀ name ∉ Template.settable, name ∉ Fields.names updates :=
    fun name other taken => other (only taken)
  rw [revised_eq_read, Fields.erase_of_not_mem (absent "id" (by decide)),
    Fields.erase_of_not_mem (absent "created_at" (by decide))]
  exact congrArg (ofReading Template.record) (read_overlaid distinct only nodesRead edgesRead)

end

theorem revised_eq (clean : template.IsClean) (areUpdates : AreUpdates updates) (now : Int) :
    TemplateStore.revised template updates now =
      ofReading Template.record (template.amended updates now) := by
  refine revised_eq_amended areUpdates.proper.1 areUpdates.settable (fun node member => ?_)
    (fun edge member => ?_) now
  · have own := clean.nodes node member
    exact own.isRead.read_plain own.separates
  · have own := clean.edges edge member
    exact own.isRead.read_plain own.separates

/-! ## What was amended -/

theorem eq_of_amended (amends : template.amended updates now = .ok result) :
    result.id = template.id ∧ result.created = template.created ∧ result.updated = now := by
  obtain ⟨_, tags, four, -, rfl⟩ := Reading.apply_eq_ok_iff.mp amends
  obtain ⟨_, edges, three, -, rfl⟩ := Reading.apply_eq_ok_iff.mp four
  obtain ⟨_, nodes, two, -, rfl⟩ := Reading.apply_eq_ok_iff.mp three
  obtain ⟨_, description, one, -, rfl⟩ := Reading.apply_eq_ok_iff.mp two
  obtain ⟨name, -, rfl⟩ := Reading.map_eq_ok_iff.mp one
  exact ⟨rfl, rfl, rfl⟩

theorem isClean_of_amended (clean : template.IsClean) (areUpdates : AreUpdates updates)
    (clock : (Json.int now).IsProper) (amends : template.amended updates now = .ok result) :
    result.IsClean := by
  obtain ⟨_, tags, four, tagsRead, rfl⟩ := Reading.apply_eq_ok_iff.mp amends
  obtain ⟨_, edges, three, edgesRead, rfl⟩ := Reading.apply_eq_ok_iff.mp four
  obtain ⟨_, nodes, two, nodesRead, rfl⟩ := Reading.apply_eq_ok_iff.mp three
  obtain ⟨_, description, one, descriptionRead, rfl⟩ := Reading.apply_eq_ok_iff.mp two
  obtain ⟨name, nameRead, rfl⟩ := Reading.map_eq_ok_iff.mp one
  obtain ⟨id, ownName, ownDescription, created, -, ownTags, -⟩ := clean.values
  have proper := areUpdates.proper.2
  refine ⟨?_, ?_, ?_⟩
  · exact ⟨id, staysProper_text.withDefault proper ownName nameRead,
      staysProper_text.withDefault proper ownDescription descriptionRead, created, clock,
      (staysProper_list staysProper_text).nullable.withDefault proper ownTags tagsRead, trivial⟩
  · rcases eq_or_mem_of_withDefault nodesRead with rfl | ⟨source, given, isRead⟩
    · exact clean.nodes
    · obtain ⟨drawn, finite⟩ := areUpdates.nodes source given
      exact drawn.forall_of_list Node.isClean_of_read finite isRead
  · rcases eq_or_mem_of_withDefault edgesRead with rfl | ⟨source, given, isRead⟩
    · exact clean.edges
    · obtain ⟨drawn, finite⟩ := areUpdates.edges source given
      exact drawn.forall_of_list Edge.isClean_of_read finite isRead

end Template

end ChainFlow
