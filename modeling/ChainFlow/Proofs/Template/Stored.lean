import ChainFlow.Proofs.Template.Rules

/-!
# Templates that stores keep

A file of templates that a store wrote gives no declared field as null and no number that is not finite.
What is read from it is written again but for its undeclared nulls (`Template.IsStored.documented_eq`).
Under plain names it reads back as it was, or as it was but for undeclared nulls, if and only if none of
its undeclared fields has the plain name of a declared one (`Node.isPlain_of_read_plain`).
-/

namespace ChainFlow

open Schema

/-! ## Nodes -/

namespace Node

/-- Whether no undeclared field of the payload has the plain name of a declared one. -/
def IsPlain (node : Node) : Prop := Schema.IsPlain node.kind.labels node.payloadExtras

/-- A node without its undeclared nulls. -/
def withoutNulls (node : Node) : Node :=
  { node with payloadExtras := node.payloadExtras.present, extras := node.extras.present }

/-- What every node is that was read from a file that a store wrote. -/
structure IsStored (node : Node) : Prop where
  isRead : node.IsRead
  apart : IsApart node.declared node.payloadExtras
  extras : Json.fieldsFinite node.extras = true
  payload : Json.fieldsFinite node.payloadExtras = true
  parameters : ∀ fields, node.role.parameters = some fields → Json.fieldsFinite fields = true

variable {node again : Node}

theorem IsStored.documented_eq (stored : node.IsStored) : node.documented = node.withoutNulls := by
  unfold documented withoutNulls
  rw [documented_eq_present stored.extras, documented_eq_present stored.payload,
    node.role.documented_eq_self_iff.mpr stored.parameters]

theorem IsRead.read_plain_of_isPlain (isRead : node.IsRead) (isPlain : node.IsPlain) :
    Node.read .document (node.dump .plain) = .ok node :=
  isRead.read_plain (separates_of_isPlain node.kind.plainNamed_labels isPlain)

/-- A node is stored if its payload was read from fields without declared nulls and with finite numbers. -/
theorem isStored_of_readPayload {source : Source} {kind : Kind} {fields : Fields}
    (isRead : again.IsRead) (gives : GivesNoNull kind.labels fields)
    (finite : Json.fieldsFinite fields = true) (extras : Json.fieldsFinite again.extras = true)
    (reading : Payload.read source kind (.obj fields) =
      .ok ⟨again.label, again.badge, again.role, again.payloadExtras⟩) : again.IsStored := by
  obtain ⟨_, same, -, rfl, payloadExtras, tell, parameters⟩ := origin_of_readPayload reading
  cases same
  have all := Json.fieldsFinite_iff.mp finite
  have own : again.payloadExtras = Schema.extras fields (again.declared.map (·.1)) := by
    rw [map_fst_declared isRead.overrides]
    exact payloadExtras
  refine ⟨isRead, ?_, extras, ?_, fun given same => ?_⟩
  · rw [own]
    refine isApart_extras ?_ fun field member => ?_
    · rw [map_fst_declared isRead.overrides]
      exact gives
    · rw [declared_of_overrides isRead.overrides] at member
      exact tells_of_mem tell field member
  · rw [own]
    exact Json.fieldsFinite_iff.mpr fun field isExtra => all field (List.mem_of_mem_filter isExtra)
  · obtain ⟨field, member, value⟩ := parameters same
    have isFinite := all field member
    rw [value] at isFinite
    exact isFinite

theorem isStored_of_read_document (isRead : node.IsRead)
    (reading : Node.read .document (node.dump .document) = .ok again) : again.IsStored := by
  have againRead := isRead_of_read (isProper_dump isRead) reading
  have gives := givesNoNull_document (areLeft_documented isRead)
  rw [map_fst_documented isRead] at gives
  have finite : Json.fieldsFinite node.payloadFields = true := by
    refine Json.fieldsFinite_iff.mpr fun field member => ?_
    rcases List.mem_append.mp member with own | other
    · obtain ⟨⟨label, isDeclared, -⟩, -⟩ := mem_wireFields.mp own
      have same : node.documented.payloadOverrides = [] := isRead.overrides
      rw [declared_of_overrides same, values_documented] at isDeclared
      obtain ⟨value, -, documented⟩ := List.mem_map.mp (List.of_mem_zip isDeclared).2
      rw [← documented]
      exact Json.isFinite_finite value
    · exact Json.fieldsFinite_iff.mp (fieldsFinite_documented _) field other
  rw [read_dump_eq isRead, dumpPayload_eq isRead] at reading
  obtain ⟨payload, payloadRead, rfl⟩ :=
    Reading.map_eq_ok_iff.mp (Reading.under_eq_ok_iff.mp reading)
  exact isStored_of_readPayload againRead gives finite (fieldsFinite_documented _)
    (Reading.under_eq_ok_iff.mp payloadRead)

/-! ### From plain forms -/

/-- What is read again from the plain form of a node: its payload anew, and beside it the same. -/
theorem readPayload_of_read_plain (isRead : node.IsRead)
    (reading : Node.read .document (node.dump .plain) = .ok again) : again.extras = node.extras ∧
      Payload.read .document node.kind (.obj (plainRecord node.declared node.payloadExtras)) =
        .ok ⟨again.label, again.badge, again.role, again.payloadExtras⟩ := by
  rw [read_dump_full_eq rfl isRead.extras.toAreOthers (plain_untypedFields node.extras),
    dumpPayload_plain] at reading
  obtain ⟨payload, payloadRead, rfl⟩ :=
    Reading.map_eq_ok_iff.mp (Reading.under_eq_ok_iff.mp reading)
  exact ⟨rfl, Reading.under_eq_ok_iff.mp payloadRead⟩

section

variable (stored : node.IsStored) (reading : Node.read .document (node.dump .plain) = .ok again)

include stored reading

theorem isStored_of_read_plain : again.IsStored := by
  have labels := map_fst_declared stored.isRead.overrides
  have againRead := isRead_of_read stored.isRead.isProper_plain reading
  obtain ⟨sameExtras, payloadRead⟩ := readPayload_of_read_plain stored.isRead reading
  have finite : Json.fieldsFinite (plainRecord node.declared node.payloadExtras) = true := by
    refine Json.fieldsFinite_iff.mpr fun field member => ?_
    rcases Fields.mem_merge member with own | other
    · obtain ⟨⟨label, value⟩, isDeclared, rfl⟩ := List.mem_map.mp own
      rw [declared_of_overrides stored.isRead.overrides] at isDeclared
      cases node.isDeclared value (List.of_mem_zip isDeclared).2 with
      | null => rfl
      | int => rfl
      | str => rfl
      | obj given => exact stored.parameters _ given
    · exact Json.fieldsFinite_iff.mp stored.payload field other
  have gives : GivesNoNull node.kind.labels (plainRecord node.declared node.payloadExtras) := by
    have wellNamed := node.kind.wellNamed_labels
    have others := stored.isRead.payload.toAreOthers
    rw [← labels] at wellNamed others ⊢
    exact givesNoNull_plainRecord wellNamed others
  exact isStored_of_readPayload againRead gives finite (sameExtras ▸ stored.extras) payloadRead

theorem isPlain_of_read_plain (same : again.withoutNulls = node.withoutNulls) : node.IsPlain := by
  have labels := map_fst_declared stored.isRead.overrides
  have wellNamed := node.kind.wellNamed_labels
  have others := stored.isRead.payload.toAreOthers
  obtain ⟨-, payloadRead⟩ := readPayload_of_read_plain stored.isRead reading
  obtain ⟨_, fields, -, -, extras, tell, -⟩ := origin_of_readPayload payloadRead
  cases fields
  have values : again.values = node.values := by
    have own := congrArg Node.values same
    exact own
  have tells : ∀ field ∈ node.declared,
      field.1.Tells (plainRecord node.declared node.payloadExtras) field.2 := by
    intro field member
    rw [declared_of_overrides stored.isRead.overrides, ← values] at member
    exact tells_of_mem tell field member
  have present : Fields.present again.payloadExtras = Fields.present node.payloadExtras :=
    congrArg Node.payloadExtras same
  change again.payloadExtras = _ at extras
  unfold IsPlain
  rw [extras, ← labels] at present
  rw [← labels] at wellNamed others ⊢
  exact isPlain_of_present wellNamed others stored.apart tells present

end

end Node

/-! ## Edges -/

namespace Edge

/-- Whether no undeclared field has the plain name of a declared one. -/
def IsPlain (edge : Edge) : Prop := Schema.IsPlain labels edge.extras

/-- An edge without its undeclared nulls. -/
def withoutNulls (edge : Edge) : Edge := { edge with extras := edge.extras.present }

/-- What every edge is that was read from a file that a store wrote. -/
structure IsStored (edge : Edge) : Prop where
  isRead : edge.IsRead
  apart : IsApart (labels.zip edge.values) edge.extras
  extras : Json.fieldsFinite edge.extras = true

variable {edge again : Edge}

theorem IsStored.documented_eq (stored : edge.IsStored) : edge.documented = edge.withoutNulls := by
  unfold documented withoutNulls
  rw [documented_eq_present stored.extras]

theorem IsRead.read_plain_of_isPlain (isRead : edge.IsRead) (isPlain : edge.IsPlain) :
    Edge.read .document (edge.dump .plain) = .ok edge :=
  isRead.read_plain (separates_of_isPlain plainNamed_labels isPlain)

/-- An edge is stored if it was read from fields without declared nulls and with finite numbers. -/
theorem isStored_of_origin {fields : Fields} (isRead : again.IsRead) (origin : again.Origin fields)
    (gives : GivesNoNull labels fields) (finite : Json.fieldsFinite fields = true) : again.IsStored := by
  have givesDeclared : GivesNoNull ((labels.zip again.values).map (·.1)) fields := gives
  refine ⟨isRead, ?_, ?_⟩
  · rw [origin.extras]
    exact isApart_extras givesDeclared (tells_of_mem origin.tell)
  · rw [origin.extras]
    have all := Json.fieldsFinite_iff.mp finite
    exact Json.fieldsFinite_iff.mpr fun field isExtra => all field (List.mem_of_mem_filter isExtra)

theorem isFinite_values (edge : Edge) : ∀ value ∈ edge.values, value.isFinite = true := by
  have text : ∀ text : Option String, (Json.ofString? text).isFinite = true := by
    intro text
    cases text <;> rfl
  have animated : (Json.ofOption .bool edge.animated).isFinite = true := by
    cases edge.animated <;> rfl
  simp [values, text, animated, Json.isFinite]

theorem isStored_of_read_document (isRead : edge.IsRead)
    (reading : Edge.read .document (edge.dump .document) = .ok again) : again.IsStored := by
  have againRead := isRead_of_read (isProper_dump isRead) reading
  have left : AreLeft ((labels.zip edge.values).map (·.1)) edge.extras := isRead.extras
  have gives := givesNoNull_document left
  rw [dump_eq isRead] at reading
  obtain ⟨_, same, origin⟩ := origin_of_read reading
  cases same
  refine isStored_of_origin againRead origin gives (Json.fieldsFinite_iff.mpr fun field member => ?_)
  rcases List.mem_append.mp member with own | other
  · obtain ⟨⟨label, isDeclared, -⟩, -⟩ := mem_wireFields.mp own
    exact edge.isFinite_values field.2 (List.of_mem_zip isDeclared).2
  · exact Json.fieldsFinite_iff.mp (fieldsFinite_documented _) field other

theorem origin_of_read_plain (reading : Edge.read .document (edge.dump .plain) = .ok again) :
    again.Origin (plainRecord (labels.zip edge.values) edge.extras) := by
  unfold dump at reading
  rw [record_plain] at reading
  obtain ⟨_, same, origin⟩ := origin_of_read reading
  cases same
  exact origin

section

variable (stored : edge.IsStored) (reading : Edge.read .document (edge.dump .plain) = .ok again)

include stored reading

theorem isStored_of_read_plain : again.IsStored := by
  have againRead := isRead_of_read stored.isRead.isProper_plain reading
  have wellNamed : WellNamed ((labels.zip edge.values).map (·.1)) := wellNamed_labels
  have gives := givesNoNull_plainRecord wellNamed stored.isRead.extras.toAreOthers
  refine isStored_of_origin againRead (origin_of_read_plain reading) gives
    (Json.fieldsFinite_iff.mpr fun field member => ?_)
  rcases Fields.mem_merge member with own | other
  · obtain ⟨⟨label, value⟩, isDeclared, rfl⟩ := List.mem_map.mp own
    exact edge.isFinite_values value (List.of_mem_zip isDeclared).2
  · exact Json.fieldsFinite_iff.mp stored.extras field other

theorem isPlain_of_read_plain (same : again.withoutNulls = edge.withoutNulls) : edge.IsPlain := by
  have origin := origin_of_read_plain reading
  have values : again.values = edge.values := by
    have own := congrArg Edge.values same
    exact own
  have present : Fields.present again.extras = Fields.present edge.extras := congrArg Edge.extras same
  have tell := origin.tell
  rw [values] at tell
  rw [origin.extras] at present
  have wellNamed : WellNamed ((labels.zip edge.values).map (·.1)) := wellNamed_labels
  exact isPlain_of_present wellNamed stored.isRead.extras.toAreOthers stored.apart
    (tells_of_mem tell) present

end

end Edge

/-! ## Templates -/

namespace Template

/-- Whether no undeclared field has the plain name of a declared one in any node or edge. -/
structure IsPlain (template : Template) : Prop where
  nodes : ∀ node ∈ template.nodes, node.IsPlain
  edges : ∀ edge ∈ template.edges, edge.IsPlain

/-- A template without the undeclared nulls of its nodes and edges. -/
def withoutNulls (template : Template) : Template :=
  { template with
    nodes := template.nodes.map Node.withoutNulls
    edges := template.edges.map Edge.withoutNulls }

/-- What every template is that was read from a file that a store wrote. -/
structure IsStored (template : Template) : Prop where
  isRead : template.IsRead
  nodes : ∀ node ∈ template.nodes, node.IsStored
  edges : ∀ edge ∈ template.edges, edge.IsStored

variable {template again : Template} {now : Int}

theorem IsStored.unshadowed (stored : template.IsStored) : template.Unshadowed :=
  ⟨fun node member => (stored.nodes node member).apart.unshadowed,
    fun edge member => (stored.edges edge member).apart.unshadowed⟩

theorem IsStored.documented_eq (stored : template.IsStored) :
    template.documented = template.withoutNulls := by
  unfold documented withoutNulls
  rw [List.map_congr_left fun node member => (stored.nodes node member).documented_eq,
    List.map_congr_left fun edge member => (stored.edges edge member).documented_eq]

theorem isStored_of_read_document (clock : (Json.int now).IsProper) (isRead : template.IsRead)
    (reading : Template.read now (template.dump .document) = .ok again) : again.IsStored := by
  have againRead := isRead_of_read clock (isProper_dump isRead) reading
  rw [read_dump_eq] at reading
  obtain ⟨_, edges, one, edgesRead, rfl⟩ := Reading.apply_eq_ok_iff.mp reading
  obtain ⟨nodes, nodesRead, rfl⟩ := Reading.map_eq_ok_iff.mp one
  refine ⟨againRead, fun node member => ?_, fun edge member => ?_⟩
  · obtain ⟨source, isSource, own⟩ := mem_of_items (Reading.under_eq_ok_iff.mp nodesRead) node member
    obtain ⟨old, isOld, rfl⟩ := List.mem_map.mp isSource
    exact Node.isStored_of_read_document (isRead.nodes old isOld) own
  · obtain ⟨source, isSource, own⟩ := mem_of_items (Reading.under_eq_ok_iff.mp edgesRead) edge member
    obtain ⟨old, isOld, rfl⟩ := List.mem_map.mp isSource
    exact Edge.isStored_of_read_document (isRead.edges old isOld) own

end Template

end ChainFlow
