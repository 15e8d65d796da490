import ChainFlow.Edge
import ChainFlow.Graph.Basic
import ChainFlow.Json.Reader
import ChainFlow.Node.Payload

/-!
# Request bodies

What the bodies of requests hold. A body that is left out, or that is null, is missing; one that is
not JSON is refused at the place of its first defect.
-/

namespace ChainFlow.Api

open Schema

inductive Body where
  | none
  | raw (text : String)

inductive Refusal where
  | invalid (issues : List Issue) (body : Json)
  | unparsable

def Body.value : Body → Except Refusal Json
  | none => .ok .null
  | raw text =>
    if text.isEmpty then .ok .null
    else
      match Json.parseBytes text.toList with
      | .ok value => .ok value
      | .error misread =>
        if misread.defect.isSyntax then
          .error (.invalid [⟨[.item misread.place], .json⟩] .null)
        else .error .unparsable

def Body.read {α : Type} (body : Body) (read : Json → Reading α) : Except Refusal α :=
  match body.value with
  | .error refusal => .error refusal
  | .ok .null => .error (.invalid [⟨[], .missing⟩] .null)
  | .ok value =>
    match read value with
    | .ok result => .ok result
    | .refused issues => .error (.invalid issues value)

def nodesOf (fields : Fields) : Reading (List Node) :=
  withDefault fields (.same "nodes") [] (Node.readList .request)

def edgesOf (fields : Fields) : Reading (List Edge) :=
  withDefault fields (.same "edges") [] (Edge.readList .request)

def readGraph (value : Json) : Reading Graph :=
  (object .request "FlowRequest" value).andThen fun fields =>
    Graph.mk <$> nodesOf fields <*> edgesOf fields

def readUser (value : Json) : Reading String :=
  (object .request "SessionRequest" value).andThen fun fields =>
    required fields ⟨"userAddress", "user_address"⟩ text

structure Draft where
  name : String
  description : String
  graph : Graph
  tags : Option (List String)

def someText (value : Json) : Reading String :=
  (text value).andThen fun text =>
    if Text.hasLone text then .problem .textUnicode
    else if text.isEmpty then .problem .textTooShort
    else .ok text

def Draft.read (value : Json) : Reading Draft :=
  (object .request "SaveTemplateRequest" value).andThen fun fields =>
    (fun name description nodes edges tags => ⟨name, description, ⟨nodes, edges⟩, tags⟩)
      <$> required fields (.same "name") someText
      <*> withDefault fields (.same "description") "" text
      <*> nodesOf fields
      <*> edgesOf fields
      <*> optional fields (.same "tags") (list text)

/-- A field of a template that is to be changed, if it is there; null is kept. -/
def change {α : Type} (fields : Fields) (name : String) (read : Json → Reading α)
    (write : α → Json) : Reading Fields :=
  match Fields.get? fields name with
  | Option.none => .ok []
  | some value =>
    ((nullable read value).under (.field name)).map fun value => [(name, .ofOption write value)]

def readChanges (value : Json) : Reading Fields :=
  (object .request "UpdateTemplateRequest" value).andThen fun fields =>
    (fun name description nodes edges tags => name ++ description ++ nodes ++ edges ++ tags)
      <$> change fields "name" text .str
      <*> change fields "description" text .str
      <*> change fields "nodes" (Node.readList .request) (fun nodes =>
        .arr (nodes.map (·.dump .plain)))
      <*> change fields "edges" (Edge.readList .request) (fun edges =>
        .arr (edges.map (·.dump .plain)))
      <*> change fields "tags" (list text) fun tags => .arr (tags.map .str)

end ChainFlow.Api
