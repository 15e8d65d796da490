import ChainFlow.Proofs.Template.Stored

/-!
# What a request sets in a template

A request to update a template leaves each field out, gives it as null, or gives it a value. What it asks
for is `Revision.applyTo`: the template with what was left out as it was. A store comes to that template if
nothing is null that has to have a value, and if the plain forms of nodes and edges are read again
(`revised_eq_ok_iff`); where none of their undeclared fields has the plain name of a declared one, they
are read again as they are (`rereadAs_self`).
-/

namespace ChainFlow

open Schema

namespace Template

/-- What a request sets in a template. Each field may be left out, and it may be null. -/
structure Revision where
  name : Option (Option String)
  description : Option (Option String)
  nodes : Option (Option (List Node))
  edges : Option (Option (List Edge))
  tags : Option (Option (List String))

namespace Revision

section

variable {α : Type}

/-- What a field is set to, if it is there. -/
def given (fields : Fields) (name : String) (read : Json → Reading α) : Reading (Option (Option α)) :=
  match fields.get? name with
  | none => .ok none
  | some value => ((nullable read value).under (.field name)).map some

def entry (name : String) (write : α → Json) : Option (Option α) → Fields
  | none => []
  | some value => [(name, .ofOption write value)]

end

def read (value : Json) : Reading Revision :=
  (object .request "UpdateTemplateRequest" value).andThen fun fields =>
    Revision.mk
      <$> given fields "name" text
      <*> given fields "description" text
      <*> given fields "nodes" (Node.readList .request)
      <*> given fields "edges" (Edge.readList .request)
      <*> given fields "tags" (list text)

def fields (revision : Revision) : Fields :=
  entry "name" .str revision.name ++ entry "description" .str revision.description ++
    entry "nodes" (fun nodes => .arr (nodes.map (·.dump .plain))) revision.nodes ++
    entry "edges" (fun edges => .arr (edges.map (·.dump .plain))) revision.edges ++
    entry "tags" (fun tags => .arr (tags.map .str)) revision.tags

/-- Whether no field is null that has to have a value. -/
structure IsWhole (revision : Revision) : Prop where
  name : revision.name ≠ some none
  description : revision.description ≠ some none
  nodes : revision.nodes ≠ some none
  edges : revision.edges ≠ some none

/-- The template with what is set in it. -/
def applyTo (revision : Revision) (template : Template) (now : Int) : Template :=
  { template with
    name := revision.name.join.getD template.name
    description := revision.description.join.getD template.description
    nodes := revision.nodes.join.getD template.nodes
    edges := revision.edges.join.getD template.edges
    updated := now
    tags := revision.tags.getD template.tags }

end Revision

/-- A template is another one once its nodes and edges are read from their plain forms. -/
structure RereadAs (template again : Template) : Prop where
  nodes : Node.readList .document (.arr (template.nodes.map (·.dump .plain))) = .ok again.nodes
  edges : Edge.readList .document (.arr (template.edges.map (·.dump .plain))) = .ok again.edges
  same : again = { template with nodes := again.nodes, edges := again.edges }

variable {template : Template} {revision : Revision} {now : Int}

theorem rereadAs_self (nodes : ∀ node ∈ template.nodes, node.IsRead)
    (edges : ∀ edge ∈ template.edges, edge.IsRead) (isPlain : template.IsPlain) :
    template.RereadAs template where
  nodes := list_map fun node member =>
    (nodes node member).read_plain_of_isPlain (isPlain.nodes node member)
  edges := list_map fun edge member =>
    (edges edge member).read_plain_of_isPlain (isPlain.edges edge member)
  same := rfl

/-! ## The fields of a revision -/

namespace Revision

section

variable {α : Type} (write : α → Json) (value : Option (Option α))

theorem names_entry (name : String) : (Fields.names (entry name write value)).Sublist [name] := by
  cases value with
  | none => exact List.nil_sublist _
  | some value => exact List.Sublist.refl _

theorem get?_entry (name other : String) :
    Fields.get? (entry name write value) other =
      if other = name then value.map (.ofOption write) else none := by
  cases value with
  | none => exact (ite_self none).symm
  | some value => exact Fields.get?_cons name _ [] other

end

theorem get?_fields (revision : Revision) (name : String) :
    revision.fields.get? name =
      ((((if name = "name" then revision.name.map (.ofOption .str) else none).or
        (if name = "description" then revision.description.map (.ofOption .str) else none)).or
        (if name = "nodes" then
          revision.nodes.map (.ofOption fun nodes => .arr (nodes.map (·.dump .plain))) else none)).or
        (if name = "edges" then
          revision.edges.map (.ofOption fun edges => .arr (edges.map (·.dump .plain))) else none)).or
        (if name = "tags" then revision.tags.map (.ofOption fun tags => .arr (tags.map .str))
          else none) := by
  simp only [fields, Fields.get?_append, get?_entry]

theorem names_fields (revision : Revision) : (Fields.names revision.fields).Sublist settable := by
  simp only [fields, Fields.names_append]
  exact ((((names_entry _ _ _).append (names_entry _ _ _)).append (names_entry _ _ _)).append
    (names_entry _ _ _)).append (names_entry _ _ _)

theorem nodup_fields (revision : Revision) : (Fields.names revision.fields).Nodup :=
  revision.names_fields.nodup (by decide)

end Revision

/-! ## What is drawn -/

theorem Revision.mem_of_given {α : Type} {fields : Fields} {name : String}
    {read : Json → Reading (List α)} {values : List α}
    (reading : given fields name read = .ok (some (some values))) :
    ∃ source, (name, source) ∈ fields ∧ read source = .ok values := by
  unfold given at reading
  cases found : fields.get? name with
  | none =>
      rw [found] at reading
      cases reading
  | some source =>
      rw [found] at reading
      obtain ⟨value, isRead, same⟩ := Reading.map_eq_ok_iff.mp reading
      cases same
      have isRead := Reading.under_eq_ok_iff.mp isRead
      have some_ : source ≠ .null := by
        rintro rfl
        cases isRead
      rw [nullable_of_ne some_] at isRead
      obtain ⟨_, own, same⟩ := Reading.map_eq_ok_iff.mp isRead
      cases same
      exact ⟨source, Fields.mem_of_get? found, own⟩

/-- What a revision draws can be written, if what it was read from can. -/
theorem Revision.isRead_of_read {value : Json} (proper : value.IsProper)
    (reading : Revision.read value = .ok revision) :
    (∀ nodes, revision.nodes = some (some nodes) → ∀ node ∈ nodes, node.IsRead) ∧
      ∀ edges, revision.edges = some (some edges) → ∀ edge ∈ edges, edge.IsRead := by
  cases value with
  | obj fields =>
      obtain ⟨_, tags, four, -, rfl⟩ := Reading.apply_eq_ok_iff.mp reading
      obtain ⟨_, edges, three, edgesRead, rfl⟩ := Reading.apply_eq_ok_iff.mp four
      obtain ⟨_, nodes, two, nodesRead, rfl⟩ := Reading.apply_eq_ok_iff.mp three
      obtain ⟨_, description, one, -, rfl⟩ := Reading.apply_eq_ok_iff.mp two
      obtain ⟨name, -, rfl⟩ := Reading.map_eq_ok_iff.mp one
      constructor
      · rintro own rfl node member
        obtain ⟨source, isField, isRead⟩ := Revision.mem_of_given nodesRead
        have isProper := (Json.fieldsProper_iff.mp proper.2 _ isField).2
        obtain ⟨item, itemProper, itemRead⟩ := exists_of_list isProper isRead node member
        exact Node.isRead_of_read itemProper itemRead
      · rintro own rfl edge member
        obtain ⟨source, isField, isRead⟩ := Revision.mem_of_given edgesRead
        have isProper := (Json.fieldsProper_iff.mp proper.2 _ isField).2
        obtain ⟨item, itemProper, itemRead⟩ := exists_of_list isProper isRead edge member
        exact Edge.isRead_of_read itemProper itemRead
  | _ => cases reading

/-- Where no undeclared field has the plain name of a declared one, the template that a request asks for
is read again as it is. -/
theorem Revision.rereadAs_applyTo {value : Json} (proper : value.IsProper)
    (reading : Revision.read value = .ok revision) (isRead : template.IsRead)
    (isPlain : (revision.applyTo template now).IsPlain) :
    (revision.applyTo template now).RereadAs (revision.applyTo template now) := by
  obtain ⟨nodesRead, edgesRead⟩ := Revision.isRead_of_read proper reading
  refine rereadAs_self ?_ ?_ isPlain
  · change ∀ node ∈ revision.nodes.join.getD template.nodes, node.IsRead
    rcases given : revision.nodes with _ | _ | nodes
    · exact isRead.nodes
    · exact isRead.nodes
    · exact nodesRead nodes given
  · change ∀ edge ∈ revision.edges.join.getD template.edges, edge.IsRead
    rcases given : revision.edges with _ | _ | edges
    · exact isRead.edges
    · exact isRead.edges
    · exact edgesRead edges given

/-! ## Reading what is set -/

section

variable {α β : Type} {write : α → Json} {fields : Fields} {name : String}

/-- What stands for a field once it is set. -/
def laid (write : α → Json) (value : Option (Option α)) (own : Json) : Json :=
  (value.map (.ofOption write)).getD own

theorem withDefault_of_get? {source : Json} (held : fields.get? name = some source) (default : β)
    (read : Json → Reading β) :
    withDefault fields (.same name) default read = (read source).under (.field name) := by
  unfold withDefault
  rw [Label.found?_same, held]
  rfl

theorem required_of_get? {source : Json} (held : fields.get? name = some source)
    (read : Json → Reading β) :
    required fields (.same name) read = (read source).under (.field name) := by
  unfold required
  rw [Label.found?_same, held]
  rfl

theorem read_laid_eq_ok_iff {read : Json → Reading β} (refuses : ∀ value, read .null ≠ .ok value)
    {value : Option (Option α)} {own : α} {result : β} :
    read (laid write value (write own)) = .ok result ↔
      value ≠ some none ∧ read (write (value.join.getD own)) = .ok result := by
  rcases value with _ | _ | value
  · exact ⟨fun reads => ⟨nofun, reads⟩, And.right⟩
  · exact ⟨fun reads => absurd reads (refuses result), fun ⟨some_, _⟩ => absurd rfl some_⟩
  · exact ⟨fun reads => ⟨nofun, reads⟩, And.right⟩

theorem read_laid_text_iff {value : Option (Option String)} {own result : String} :
    text (laid .str value (.str own)) = .ok result ↔ value ≠ some none ∧ value.join.getD own = result := by
  rw [read_laid_eq_ok_iff nofun, rereads_text.reads, Reading.ok.injEq]

theorem read_laid_optional {read : Json → Reading α} (rereads : Rereads read write)
    (value : Option (Option α)) (own : Option α) :
    nullable read (laid write value (.ofOption write own)) = .ok (value.getD own) := by
  cases value <;> exact rereads.nullable _

end

theorem get?_overlaid_entry {α : Type} {write : α → Json} {value : Option (Option α)} {name : String}
    {own : Json} (other : name ≠ "updated_at")
    (set : revision.fields.get? name = value.map (.ofOption write))
    (stands : template.plainFields.get? name = some own) :
    Fields.get? (template.overlaid revision.fields now) name = some (laid write value own) := by
  rw [get?_overlaid revision.nodup_fields other, set, stands]
  exact Option.or_some

theorem read_overlaid_fields (revision : Revision) (template : Template) (now : Int) :
    Template.read now (.obj (template.overlaid revision.fields now)) =
      (fun name description nodes edges tags =>
          { template with name, description, nodes, edges, updated := now, tags })
        <$> (text (laid .str revision.name (.str template.name))).under (.field "name")
        <*> (text (laid .str revision.description (.str template.description))).under
          (.field "description")
        <*> (Node.readList .document (laid (fun nodes => .arr (nodes.map (·.dump .plain)))
          revision.nodes (.arr (template.nodes.map (·.dump .plain))))).under (.field "nodes")
        <*> (Edge.readList .document (laid (fun edges => .arr (edges.map (·.dump .plain)))
          revision.edges (.arr (template.edges.map (·.dump .plain))))).under (.field "edges")
        <*> (nullable (list text) (laid (fun tags => .arr (tags.map .str)) revision.tags
          (.ofOption (fun tags => .arr (tags.map .str)) template.tags))).under (.field "tags") := by
  have distinct := revision.nodup_fields
  have only := revision.names_fields.subset
  have id : Fields.get? (template.overlaid revision.fields now) "id" = some (.str template.id) := by
    rw [get?_overlaid distinct (by decide), get?_of_settable only (by decide)]
    rfl
  have name : revision.fields.get? "name" = revision.name.map (.ofOption .str) := by
    simp [Revision.get?_fields]
  have description : revision.fields.get? "description" =
      revision.description.map (.ofOption .str) := by
    simp [Revision.get?_fields]
  have nodes : revision.fields.get? "nodes" =
      revision.nodes.map (.ofOption fun nodes => .arr (nodes.map (·.dump .plain))) := by
    simp [Revision.get?_fields]
  have edges : revision.fields.get? "edges" =
      revision.edges.map (.ofOption fun edges => .arr (edges.map (·.dump .plain))) := by
    simp [Revision.get?_fields]
  have tags : revision.fields.get? "tags" =
      revision.tags.map (.ofOption fun tags => .arr (tags.map .str)) := by
    simp [Revision.get?_fields]
  unfold Template.read
  simp only [object, Reading.andThen]
  unfold Schema.optional
  rw [required_of_get? id, required_of_get? (get?_overlaid_entry (by decide) name rfl),
    withDefault_of_get? (get?_overlaid_entry (by decide) description rfl),
    withDefault_of_get? (get?_overlaid_entry (by decide) nodes rfl),
    withDefault_of_get? (get?_overlaid_entry (by decide) edges rfl),
    rereads_integer.withDefault now (created_overlaid distinct only),
    rereads_integer.withDefault now (updated_overlaid distinct only),
    withDefault_of_get? (get?_overlaid_entry (by decide) tags rfl)]
  -- The readings stay in one order, so it is enough that each of them may stop the whole.
  generalize (text (laid .str revision.name _)).under _ = name
  generalize (text (laid .str revision.description _)).under _ = description
  generalize (Node.readList .document _).under _ = nodes
  generalize (Edge.readList .document _).under _ = edges
  generalize (nullable (list text) _).under _ = tags
  cases name <;> cases description <;> cases nodes <;> cases edges <;> cases tags <;> rfl

/-- A template is revised as a request asks if nothing is null that has to have a value and the drawing is
read again from its plain form; and in no other case. -/
theorem revised_eq_ok_iff {template result : Template} :
    TemplateStore.revised template revision.fields now = .ok result ↔
      revision.IsWhole ∧ (revision.applyTo template now).RereadAs result := by
  have only := revision.names_fields.subset
  have absent : ∀ name ∉ settable, name ∉ Fields.names revision.fields :=
    fun name other taken => other (only taken)
  have tags := read_laid_optional rereads_tags revision.tags template.tags
  rw [revised_eq_read, Fields.erase_of_not_mem (absent "id" (by decide)),
    Fields.erase_of_not_mem (absent "created_at" (by decide)), read_overlaid_fields, tags]
  constructor
  · intro reads
    obtain ⟨_, _, four, isTags, rfl⟩ := Reading.apply_eq_ok_iff.mp (ofReading_eq_ok reads)
    obtain ⟨_, edges, three, edgesRead, rfl⟩ := Reading.apply_eq_ok_iff.mp four
    obtain ⟨_, nodes, two, nodesRead, rfl⟩ := Reading.apply_eq_ok_iff.mp three
    obtain ⟨_, description, one, descriptionRead, rfl⟩ := Reading.apply_eq_ok_iff.mp two
    obtain ⟨name, nameRead, rfl⟩ := Reading.map_eq_ok_iff.mp one
    cases isTags
    obtain ⟨someName, rfl⟩ := read_laid_text_iff.mp (Reading.under_eq_ok_iff.mp nameRead)
    obtain ⟨someDescription, rfl⟩ :=
      read_laid_text_iff.mp (Reading.under_eq_ok_iff.mp descriptionRead)
    obtain ⟨someNodes, nodesRead⟩ :=
      (read_laid_eq_ok_iff nofun).mp (Reading.under_eq_ok_iff.mp nodesRead)
    obtain ⟨someEdges, edgesRead⟩ :=
      (read_laid_eq_ok_iff nofun).mp (Reading.under_eq_ok_iff.mp edgesRead)
    exact ⟨⟨someName, someDescription, someNodes, someEdges⟩, nodesRead, edgesRead, rfl⟩
  · rintro ⟨⟨someName, someDescription, someNodes, someEdges⟩, nodesRead, edgesRead, same⟩
    have nodes : Node.readList .document (laid (fun nodes => .arr (nodes.map (·.dump .plain)))
        revision.nodes (.arr (template.nodes.map (·.dump .plain)))) = .ok result.nodes :=
      (read_laid_eq_ok_iff nofun).mpr ⟨someNodes, nodesRead⟩
    have edges : Edge.readList .document (laid (fun edges => .arr (edges.map (·.dump .plain)))
        revision.edges (.arr (template.edges.map (·.dump .plain)))) = .ok result.edges :=
      (read_laid_eq_ok_iff nofun).mpr ⟨someEdges, edgesRead⟩
    rw [same, read_laid_text_iff.mpr ⟨someName, rfl⟩, read_laid_text_iff.mpr ⟨someDescription, rfl⟩,
      nodes, edges]
    rfl

end Template

/-! ## Updating a store -/

namespace TemplateStore

variable {store : TemplateStore} {now : Int} {id : String}

theorem reviseFirst_eq_none (revise : Template → Except Fault Template) {templates : List Template}
    (unknown : ∀ template ∈ templates, template.id ≠ id) : reviseFirst id revise templates = none := by
  induction templates with
  | nil => rfl
  | cons first rest ih =>
      obtain ⟨other, others⟩ := List.forall_mem_cons.mp unknown
      rw [reviseFirst, if_neg other, ih others]
      rfl

theorem update_of_unknown {templates : List Template} (held : store.saved now = .ok templates)
    (unknown : ∀ template ∈ templates, template.id ≠ id) (revision : Template.Revision) :
    store.update now id revision.fields = (.ok none, store) := by
  unfold TemplateStore.update
  rw [besides_settable revision.names_fields.subset, held]
  simp only [bind, Except.bind, reviseFirst_eq_none _ unknown]
  rfl

theorem update_of_known {earlier later : List Template} {old : Template}
    (held : store.saved now = .ok (earlier ++ old :: later)) (own : old.id = id)
    (apart : ∀ other ∈ earlier, other.id ≠ id) (revision : Template.Revision) :
    store.update now id revision.fields =
      match revised old revision.fields now with
      | .error fault => (.error fault, store)
      | .ok template =>
        if (earlier ++ template :: later).all (·.fitsLevels) then
          (.ok (some template), { store with text := some (textOf (earlier ++ template :: later)) })
        else (.error .tooNested, store) := by
  unfold TemplateStore.update
  rw [besides_settable revision.names_fields.subset, held]
  simp only [bind, Except.bind, reviseFirst_append _ own apart]
  cases revised old revision.fields now with
  | error fault => rfl
  | ok template => exact orUnchanged_write store _ (some template)

end TemplateStore

end ChainFlow
