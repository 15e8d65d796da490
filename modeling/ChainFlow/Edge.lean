import ChainFlow.Schema.Record

/-!
# Edges

An edge of a drawing joins two nodes by their ids; the rest is for the canvas.
-/

namespace ChainFlow

open Schema

structure Edge where
  id : String
  source : String
  target : String
  sourceHandle : Option String
  targetHandle : Option String
  shape : Option String
  animated : Option Bool
  extras : Fields

namespace Edge

def labels : List Label :=
  [.same "id", .same "source", .same "target", ⟨"sourceHandle", "source_handle"⟩,
    ⟨"targetHandle", "target_handle"⟩, .same "type", .same "animated"]

def read (source : Source) (value : Json) : Reading Edge :=
  ((object source "FlowEdge" value).andThen openFields).andThen fun fields =>
    (fun id source target sourceHandle targetHandle shape animated =>
        ⟨id, source, target, sourceHandle, targetHandle, shape, animated,
          Schema.extras fields labels⟩)
      <$> required fields (.same "id") text
      <*> required fields (.same "source") text
      <*> required fields (.same "target") text
      <*> optional fields ⟨"sourceHandle", "source_handle"⟩ text
      <*> optional fields ⟨"targetHandle", "target_handle"⟩ text
      <*> optional fields (.same "type") text
      <*> optional fields (.same "animated") boolean

def readList (source : Source) : Json → Reading (List Edge) := list (read source)

def values (edge : Edge) : List Json :=
  [.str edge.id, .str edge.source, .str edge.target, .ofString? edge.sourceHandle,
    .ofString? edge.targetHandle, .ofString? edge.shape, .ofOption .bool edge.animated]

def dump (style : Style) (edge : Edge) : Json := style.record (labels.zip edge.values) edge.extras

/-- Whether an edge can be written into a document. -/
def fitsLevels (edge : Edge) : Bool := Schema.fitsLevels edge.extras

def joins (edge : Edge) (source target : String) : Bool :=
  edge.source == source && edge.target == target

end Edge

end ChainFlow
