import ChainFlow.Node.Basic
import ChainFlow.Schema.Record

/-!
# Reading nodes

`Node.read` reads a node from an object. The tag under `type` selects the kind, and with it the
declared fields of the payload; issues inside a node stand under its tag.
-/

namespace ChainFlow

open Schema

def ChainId.read : Json → Reading ChainId := integer

def Token.read : Json → Reading Token := choice Token.symbols Token.ofSymbol?

def Action.read : Json → Reading Action := choice Action.words Action.ofWord?

def Badge.read : Json → Reading Badge := choice Badge.words Badge.ofWord?

/-- A place. Fields other than the two coordinates are of no account. -/
def Place.read (source : Source) (value : Json) : Reading Place :=
  (object source "NodePosition" value).andThen fun fields =>
    Place.mk <$> withDefault fields (.same "x") Place.origin.x float
      <*> withDefault fields (.same "y") Place.origin.y float

def Start.labels : List Label :=
  [.same "chain", .same "token", .same "amount", ⟨"userAddress", "user_address"⟩]

def Start.read (fields : Fields) : Reading Start :=
  Start.mk <$> required fields (.same "chain") ChainId.read
    <*> required fields (.same "token") Token.read
    <*> optional fields (.same "amount") text
    <*> optional fields ⟨"userAddress", "user_address"⟩ text

def Bridge.labels : List Label :=
  [⟨"toChain", "to_chain"⟩, .same "amount", ⟨"fromChain", "from_chain"⟩, .same "token"]

def Bridge.read (fields : Fields) : Reading Bridge :=
  Bridge.mk <$> required fields ⟨"toChain", "to_chain"⟩ ChainId.read
    <*> required fields (.same "amount") text
    <*> optional fields ⟨"fromChain", "from_chain"⟩ ChainId.read
    <*> optional fields (.same "token") Token.read

def Transfer.labels : List Label :=
  [.same "amount", .same "recipient", .same "chain", .same "token"]

def Transfer.read (fields : Fields) : Reading Transfer :=
  Transfer.mk <$> required fields (.same "amount") text
    <*> required fields (.same "recipient") text
    <*> optional fields (.same "chain") ChainId.read
    <*> optional fields (.same "token") Token.read

def ContractCall.labels : List Label :=
  [.same "action", .same "amount", .same "chain", .same "token",
    ⟨"contractAddress", "contract_address"⟩, .same "params"]

def ContractCall.read (fields : Fields) : Reading ContractCall :=
  ContractCall.mk <$> required fields (.same "action") Action.read
    <*> required fields (.same "amount") text
    <*> optional fields (.same "chain") ChainId.read
    <*> optional fields (.same "token") Token.read
    <*> optional fields ⟨"contractAddress", "contract_address"⟩ text
    <*> optional fields (.same "params") dictionary

def Finish.labels : List Label :=
  [.same "chain", ⟨"expectedToken", "expected_token"⟩, ⟨"expectedAmount", "expected_amount"⟩,
    .same "description"]

def Finish.read (fields : Fields) : Reading Finish :=
  Finish.mk <$> optional fields (.same "chain") ChainId.read
    <*> optional fields ⟨"expectedToken", "expected_token"⟩ Token.read
    <*> optional fields ⟨"expectedAmount", "expected_amount"⟩ text
    <*> optional fields (.same "description") text

def Estimate.labels : List Label :=
  [⟨"estimatedCost", "estimated_cost"⟩, ⟨"estimatedTime", "estimated_time"⟩]

def Estimate.read (fields : Fields) : Reading Estimate :=
  Estimate.mk <$> optional fields ⟨"estimatedCost", "estimated_cost"⟩ text
    <*> optional fields ⟨"estimatedTime", "estimated_time"⟩ integer

/-- The declared fields of the payload of a kind, in their order. -/
def Kind.labels : Kind → List Label
  | start => [.same "label", .same "status"] ++ Start.labels
  | bridge => [.same "label", .same "status"] ++ Estimate.labels ++ Bridge.labels
  | transfer => [.same "label", .same "status"] ++ Estimate.labels ++ Transfer.labels
  | call => [.same "label", .same "status"] ++ Estimate.labels ++ ContractCall.labels
  | finish => [.same "label", .same "status"] ++ Finish.labels

/-- The name of the record that a payload of a kind is. -/
def Kind.payloadName : Kind → String
  | start => "StartNodeData"
  | bridge => "BridgeNodeData"
  | transfer => "TransferNodeData"
  | call => "ExecuteNodeData"
  | finish => "EndNodeData"

/-- The part in a flow from the fields of a payload; an action's estimate is read before its work.
-/
def Role.read (kind : Kind) (fields : Fields) : Reading Role :=
  let action (work : Reading Work) : Reading Role :=
    (fun estimate work => .action work estimate) <$> Estimate.read fields <*> work
  match kind with
  | .start => .start <$> Start.read fields
  | .bridge => action (.bridge <$> Bridge.read fields)
  | .transfer => action (.transfer <$> Transfer.read fields)
  | .call => action (.call <$> ContractCall.read fields)
  | .finish => .finish <$> Finish.read fields

/-- A payload: label, badge, part in the flow and undeclared fields. -/
structure Payload where
  label : String
  badge : Option Badge
  role : Role
  extras : Fields

def Payload.read (source : Source) (kind : Kind) (value : Json) : Reading Payload :=
  ((object source kind.payloadName value).andThen openFields).andThen fun fields =>
    (fun label badge role => ⟨label, badge, role, Schema.extras fields kind.labels⟩)
      <$> withDefault fields (.same "label") "" text
      <*> optional fields (.same "status") Badge.read
      <*> Role.read kind fields

def Node.labels : List Label := [.same "id", .same "position", .same "type", .same "data"]

def Node.readFields (source : Source) (kind : Kind) (fields : Fields) : Reading Node :=
  (openFields fields).andThen fun fields =>
    (fun id place (payload : Payload) =>
        ⟨id, place, payload.label, payload.badge, payload.role, payload.extras, [],
          Schema.extras fields Node.labels⟩)
      <$> required fields (.same "id") text
      <*> withDefault fields (.same "position") Place.origin (Place.read source)
      <*> required fields (.same "data") (Payload.read source kind)

def Node.read (source : Source) (value : Json) : Reading Node :=
  match value with
  | .obj fields =>
    match Fields.get? fields "type" with
    | none => .problem (.tagMissing "type")
    | some tag =>
      match tag with
      | .str word =>
        match Kind.ofTag? word with
        | some kind => (Node.readFields source kind fields).under (.tag word)
        | none => .problem (.tagUnknown "type" (Text.withoutLone word) Kind.tags)
      | tag => .problem (.tagUnknown "type" tag.plain Kind.tags)
  | _ => .problem .attributes

def Node.readList (source : Source) : Json → Reading (List Node) := list (Node.read source)

end ChainFlow
