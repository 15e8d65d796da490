import ChainFlow.Proofs.Graph.Roundtrip
import ChainFlow.Proofs.Template.Saving

/-!
# What the canvas draws

The canvas writes no nulls on nodes, payloads and edges and gives no name an underscore. What is read
from such data, with finite numbers, is kept as it is by documents and by the plain form that a
template is revised in.
-/

namespace ChainFlow

open Schema
open Json (ItemsProper)

/-! ## Data -/

/-- Fields as the canvas writes them. What they hold inside is free. -/
def Fields.Drawn (fields : Fields) : Prop := ∀ field ∈ fields, field.2 ≠ .null ∧ '_' ∉ field.1.toList

def Node.Drawn (item : Json) : Prop :=
  ∀ fields, item = .obj fields →
    Fields.Drawn fields ∧ ∀ payload, ("data", .obj payload) ∈ fields → Fields.Drawn payload

def Edge.Drawn (item : Json) : Prop := ∀ fields, item = .obj fields → Fields.Drawn fields

/-- A list of nodes or edges as the canvas writes it. -/
structure IsDrawing (entry : Json → Prop) (source : Json) : Prop where
  proper : source.IsProper
  entries : ∀ items, source = .arr items → ∀ item ∈ items, entry item

theorem IsDrawing.forall_of_list {α : Type} {entry : Json → Prop} {IsClean : α → Prop}
    {read : Json → Reading α} {source : Json} {values : List α}
    (clean : ∀ {item value}, item.IsProper → item.isFinite = true → entry item →
      read item = .ok value → IsClean value)
    (drawn : IsDrawing entry source) (finite : source.isFinite = true)
    (reading : list read source = .ok values) : ∀ value ∈ values, IsClean value := by
  cases source with
  | arr items =>
      intro value member
      obtain ⟨item, isItem, isRead⟩ := mem_of_items reading value member
      exact clean (Json.itemsProper_iff.mp drawn.proper item isItem)
        (Json.itemsFinite_iff.mp finite item isItem) (drawn.entries items rfl item isItem) isRead
  | _ => cases reading

/-! ## Plain names -/

/-- Declared fields with plain names that the canvas gives to no other fields. -/
structure PlainNamed (labels : List Label) : Prop where
  distinct : (labels.map (·.plain)).Nodup
  whole : ∀ label ∈ labels, Text.hasLone label.plain = false
  marked : ∀ label ∈ labels, label.plain = label.wire ∨ '_' ∈ label.plain.toList

theorem Kind.plainNamed_labels (kind : Kind) : PlainNamed kind.labels := by
  cases kind <;> exact ⟨by decide, by decide, by decide⟩

theorem Edge.plainNamed_labels : PlainNamed Edge.labels := ⟨by decide, by decide, by decide⟩

section

variable {labels : List Label} {declared : List (Label × Json)} {extras fields : Fields}

theorem separates_of_isPlain (plain : PlainNamed labels) (isPlain : IsPlain labels extras) :
    Style.plain.Separates labels extras := ⟨plain.distinct, plain.whole, isPlain⟩

theorem separates_plain (plain : PlainNamed labels) (others : AreOthers labels extras)
    (drawn : Fields.Drawn extras) : Style.plain.Separates labels extras where
  distinct := plain.distinct
  whole := plain.whole
  apart label member taken := by
    rcases plain.marked label member with same | marked
    · exact others.apart label member (same ▸ taken)
    · obtain ⟨field, isExtra, named⟩ := List.mem_map.mp taken
      exact (drawn field isExtra).2 (named ▸ marked)

theorem unshadowed_of_separates (separates : Style.plain.Separates (declared.map (·.1)) extras) :
    Unshadowed declared extras := fun field member _ taken =>
  separates.apart field.1 (List.mem_map_of_mem member) ((names_documented_sublist extras).subset taken)

theorem drawn_extras (drawn : Fields.Drawn fields) (labels : List Label) :
    Fields.Drawn (Schema.extras fields labels) :=
  fun field isExtra => drawn field (List.mem_of_mem_filter isExtra)

theorem isKept_of_drawn (drawn : Fields.Drawn fields) (finite : Json.fieldsFinite fields = true)
    (labels : List Label) : IsKept (Schema.extras fields labels) where
  present field isExtra := (drawn field (List.mem_of_mem_filter isExtra)).1
  finite field isExtra := Json.fieldsFinite_iff.mp finite field (List.mem_of_mem_filter isExtra)

end

/-! ## Nodes -/

namespace Node

/-- A node that loses nothing in documents nor under plain names. -/
structure IsClean (node : Node) : Prop where
  isRead : node.IsRead
  isKept : node.IsKept
  separates : Style.plain.Separates node.kind.labels node.payloadExtras

variable {node : Node}

theorem isClean_of_read {source : Source} {item : Json} (proper : item.IsProper)
    (finite : item.isFinite = true) (drawn : Node.Drawn item)
    (reading : Node.read source item = .ok node) : node.IsClean := by
  obtain ⟨fields, payload, rfl, origin⟩ := origin_of_read reading
  have isRead := isRead_of_read proper reading
  obtain ⟨outer, inner⟩ := drawn fields rfl
  have own := inner payload origin.data
  have payloadFinite : Json.fieldsFinite payload = true :=
    Json.fieldsFinite_iff.mp finite _ origin.data
  have separates : Style.plain.Separates node.kind.labels node.payloadExtras := by
    refine separates_plain node.kind.plainNamed_labels isRead.payload.toAreOthers ?_
    rw [origin.payloadExtras]
    exact drawn_extras own node.kind.labels
  have unshadowed : node.Unshadowed := by
    refine unshadowed_of_separates ?_
    rw [map_fst_declared isRead.overrides]
    exact separates
  refine ⟨isRead, ⟨?_, ?_, fun parameters given => ?_, unshadowed⟩, separates⟩
  · rw [origin.extras]
    exact isKept_of_drawn outer finite Node.labels
  · rw [origin.payloadExtras]
    exact isKept_of_drawn own payloadFinite node.kind.labels
  · obtain ⟨field, member, same⟩ := origin.parameters given
    have isFinite := Json.fieldsFinite_iff.mp payloadFinite field member
    rw [same] at isFinite
    exact isFinite

theorem IsRead.isFormed (isRead : node.IsRead) : node.IsFormed :=
  ⟨isRead.overrides, isRead.payload.toAreOthers, isRead.extras.toAreOthers⟩

/-- A node is read again from its plain form. -/
theorem IsRead.read_plain (isRead : node.IsRead)
    (separates : Style.plain.Separates node.kind.labels node.payloadExtras) :
    Node.read .document (node.dump .plain) = .ok node :=
  read_dump_full rfl isRead.isFormed separates (keptBy_of_exact rfl node) .document

end Node

/-! ## Edges -/

namespace Edge

/-- An edge that loses nothing in documents nor under plain names. -/
structure IsClean (edge : Edge) : Prop where
  isRead : edge.IsRead
  isKept : edge.IsKept
  separates : Style.plain.Separates Edge.labels edge.extras

variable {edge : Edge}

theorem isClean_of_read {source : Source} {item : Json} (proper : item.IsProper)
    (finite : item.isFinite = true) (drawn : Edge.Drawn item)
    (reading : Edge.read source item = .ok edge) : edge.IsClean := by
  obtain ⟨fields, rfl, origin⟩ := origin_of_read reading
  have isRead := isRead_of_read proper reading
  have own := drawn fields rfl
  have separates : Style.plain.Separates Edge.labels edge.extras := by
    refine separates_plain Edge.plainNamed_labels isRead.extras.toAreOthers ?_
    rw [origin.extras]
    exact drawn_extras own Edge.labels
  have extras : Schema.IsKept edge.extras := by
    rw [origin.extras]
    exact isKept_of_drawn own finite Edge.labels
  exact ⟨isRead, ⟨extras, unshadowed_of_separates separates⟩, separates⟩

theorem IsRead.read_plain (isRead : edge.IsRead)
    (separates : Style.plain.Separates labels edge.extras) :
    Edge.read .document (edge.dump .plain) = .ok edge :=
  read_dump_full rfl isRead.extras.toAreOthers separates (plain_untypedFields edge.extras) .document

end Edge

/-! ## Drawings and templates -/

/-- A drawing that was read from what the canvas wrote, with finite numbers. -/
structure Graph.IsDrawn (graph : Graph) : Prop where
  nodes : ∃ source, IsDrawing Node.Drawn source ∧ source.isFinite = true ∧
    Node.readList .document source = .ok graph.nodes
  edges : ∃ source, IsDrawing Edge.Drawn source ∧ source.isFinite = true ∧
    Edge.readList .document source = .ok graph.edges

namespace Template

structure IsClean (template : Template) : Prop where
  values : ItemsProper template.plainValues
  nodes : ∀ node ∈ template.nodes, node.IsClean
  edges : ∀ edge ∈ template.edges, edge.IsClean

variable {template : Template}

theorem IsClean.isRead (clean : template.IsClean) : template.IsRead where
  values := clean.values
  nodes node member := (clean.nodes node member).isRead
  edges edge member := (clean.edges edge member).isRead

theorem IsClean.isKept (clean : template.IsClean) : template.IsKept where
  nodes node member := (clean.nodes node member).isKept
  edges edge member := (clean.edges edge member).isKept

end Template

end ChainFlow
