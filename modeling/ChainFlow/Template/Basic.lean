import ChainFlow.Edge
import ChainFlow.Node.Payload

/-!
# Templates

A template is a drawing that was saved, with a name and what else is shown in a list of templates.
-/

namespace ChainFlow

open Schema

structure Template where
  id : String
  name : String
  description : String
  nodes : List Node
  edges : List Edge
  /-- Milliseconds since the epoch. -/
  created : Int
  /-- Milliseconds since the epoch. -/
  updated : Int
  tags : Option (List String)

namespace Template

def labels : List Label :=
  [.same "id", .same "name", .same "description", .same "nodes", .same "edges",
    ⟨"createdAt", "created_at"⟩, ⟨"updatedAt", "updated_at"⟩, .same "tags"]

def record : String := "FlowTemplate"

/-- A template from data; a time that is left out is the present one. -/
def read (now : Int) (value : Json) : Reading Template :=
  (object .document record value).andThen fun fields =>
    Template.mk
      <$> required fields (.same "id") text
      <*> required fields (.same "name") text
      <*> withDefault fields (.same "description") "" text
      <*> withDefault fields (.same "nodes") [] (Node.readList .document)
      <*> withDefault fields (.same "edges") [] (Edge.readList .document)
      <*> withDefault fields ⟨"createdAt", "created_at"⟩ now integer
      <*> withDefault fields ⟨"updatedAt", "updated_at"⟩ now integer
      <*> optional fields (.same "tags") (list text)

def values (style : Style) (template : Template) : List Json :=
  [.str template.id, .str template.name, .str template.description,
    .arr (template.nodes.map (·.dump style)), .arr (template.edges.map (·.dump style)),
    .int template.created, .int template.updated,
    .ofOption (fun tags => .arr (tags.map .str)) template.tags]

def dump (style : Style) (template : Template) : Json :=
  style.record (labels.zip (template.values style)) []

def fitsLevels (template : Template) : Bool :=
  template.nodes.all (·.fitsLevels) && template.edges.all (·.fitsLevels)

end Template

end ChainFlow
