import ChainFlow.Node.Reader

/-!
# The fields of a payload

A payload as its fields: `Node.declared` lists the declared ones, `Node.field?` looks a field up by
its plain name, `Node.set` sets one without reading it, and `Node.dump` writes the node.
-/

namespace ChainFlow

open Schema

def Token.dump? (token : Option Token) : Json := .ofOption (fun token => .str token.symbol) token

/-- The values of a start's fields, in the order of `Start.labels`. -/
def Start.values (start : Start) : List Json :=
  [.int start.chain, .str start.token.symbol, .ofString? start.amount, .ofString? start.userAddress]

def Bridge.values (bridge : Bridge) : List Json :=
  [.int bridge.toChain, .str bridge.amount, .ofInt? bridge.fromChain, Token.dump? bridge.token]

def Transfer.values (transfer : Transfer) : List Json :=
  [.str transfer.amount, .str transfer.recipient, .ofInt? transfer.chain,
    Token.dump? transfer.token]

def ContractCall.values (call : ContractCall) : List Json :=
  [.str call.action.word, .str call.amount, .ofInt? call.chain, Token.dump? call.token,
    .ofString? call.contract, .ofOption .obj call.parameters]

def Finish.values (finish : Finish) : List Json :=
  [.ofInt? finish.chain, Token.dump? finish.expectedToken, .ofString? finish.expectedAmount,
    .ofString? finish.description]

def Estimate.values (estimate : Estimate) : List Json :=
  [.ofString? estimate.cost, .ofInt? estimate.seconds]

def Work.values : Work → List Json
  | .bridge own => own.values
  | .transfer own => own.values
  | .call own => own.values

def Role.values : Role → List Json
  | .start own => own.values
  | .action work estimate => estimate.values ++ work.values
  | .finish own => own.values

namespace Node

/-- The declared fields of a node's payload, with the values that show for them. -/
def declared (node : Node) : List (Label × Json) :=
  let values := [Json.str node.label, .ofOption (fun badge => .str badge.word) node.badge] ++
    node.role.values
  (node.kind.labels.zip values).map fun (label, value) =>
    (label, (node.payloadOverrides.get? label.plain).getD value)

/-- The value of a payload's field by its plain name, be it declared or not. -/
def field? (node : Node) (name : String) : Option Json :=
  match node.declared.find? (·.1.plain == name) with
  | some field => some field.2
  | none => node.payloadExtras.get? name

/-- A payload. None of its declared fields is a floating-point number. -/
def dumpPayload (style : Style) (node : Node) : Json :=
  .obj (Fields.merge
    (style.untypedFields (style.kept (node.declared.map fun field => (style.name field.1, field.2))))
    (style.untypedFields (style.kept node.payloadExtras)))

def dumpPlace (place : Place) : Json := .obj [("x", .float place.x), ("y", .float place.y)]

def dump (style : Style) (node : Node) : Json :=
  style.record
    [(.same "id", .str node.id), (.same "position", dumpPlace node.place),
      (.same "type", .str node.kind.tag), (.same "data", node.dumpPayload style)]
    node.extras

/-- Whether a node can be written into a document. -/
def fitsLevels (node : Node) : Bool :=
  Schema.fitsLevels node.extras && Schema.fitsLevels node.payloadExtras &&
    (node.call?.bind (·.parameters)).all Schema.fitsLevels

end Node

/-- An optional text that a value is, exactly. -/
def exactText? : Json → Option (Option String)
  | .str text => some (some text)
  | .null => some none
  | _ => none

def exactInt? : Json → Option (Option Int)
  | .int value => some (some value)
  | .null => some none
  | _ => none

def exactToken? : Json → Option (Option Token)
  | .str symbol => (Token.ofSymbol? symbol).map some
  | .null => some none
  | _ => none

def exactBadge? : Json → Option (Option Badge)
  | .str word => (Badge.ofWord? word).map some
  | .null => some none
  | _ => none

/-- A start with a field set by its plain name to a value of its type. -/
def Start.set? (start : Start) (name : String) (value : Json) : Option Start :=
  match name, value with
  | "chain", .int chain => some { start with chain }
  | "token", .str symbol => (Token.ofSymbol? symbol).map fun token => { start with token }
  | "amount", value => (exactText? value).map fun amount => { start with amount }
  | "user_address", value => (exactText? value).map fun userAddress => { start with userAddress }
  | _, _ => none

def Bridge.set? (bridge : Bridge) (name : String) (value : Json) : Option Bridge :=
  match name, value with
  | "to_chain", .int toChain => some { bridge with toChain }
  | "amount", .str amount => some { bridge with amount }
  | "from_chain", value => (exactInt? value).map fun fromChain => { bridge with fromChain }
  | "token", value => (exactToken? value).map fun token => { bridge with token }
  | _, _ => none

def Transfer.set? (transfer : Transfer) (name : String) (value : Json) : Option Transfer :=
  match name, value with
  | "amount", .str amount => some { transfer with amount }
  | "recipient", .str recipient => some { transfer with recipient }
  | "chain", value => (exactInt? value).map fun chain => { transfer with chain }
  | "token", value => (exactToken? value).map fun token => { transfer with token }
  | _, _ => none

def ContractCall.set? (call : ContractCall) (name : String) (value : Json) : Option ContractCall :=
  match name, value with
  | "action", .str word => (Action.ofWord? word).map fun action => { call with action }
  | "amount", .str amount => some { call with amount }
  | "chain", value => (exactInt? value).map fun chain => { call with chain }
  | "token", value => (exactToken? value).map fun token => { call with token }
  | "contract_address", value => (exactText? value).map fun contract => { call with contract }
  | "params", .obj parameters => some { call with parameters := some parameters }
  | "params", .null => some { call with parameters := none }
  | _, _ => none

def Finish.set? (finish : Finish) (name : String) (value : Json) : Option Finish :=
  match name, value with
  | "chain", value => (exactInt? value).map fun chain => { finish with chain }
  | "expected_token", value =>
    (exactToken? value).map fun expectedToken => { finish with expectedToken }
  | "expected_amount", value =>
    (exactText? value).map fun expectedAmount => { finish with expectedAmount }
  | "description", value => (exactText? value).map fun description => { finish with description }
  | _, _ => none

def Estimate.set? (estimate : Estimate) (name : String) (value : Json) : Option Estimate :=
  match name, value with
  | "estimated_cost", value => (exactText? value).map fun cost => { estimate with cost }
  | "estimated_time", value => (exactInt? value).map fun seconds => { estimate with seconds }
  | _, _ => none

def Work.set? (work : Work) (name : String) (value : Json) : Option Work :=
  match work with
  | .bridge own => (own.set? name value).map .bridge
  | .transfer own => (own.set? name value).map .transfer
  | .call own => (own.set? name value).map .call

def Role.set? (role : Role) (name : String) (value : Json) : Option Role :=
  match role with
  | .start own => (own.set? name value).map .start
  | .action work estimate =>
    match estimate.set? name value with
    | some estimate => some (.action work estimate)
    | none => (work.set? name value).map (.action · estimate)
  | .finish own => (own.set? name value).map .finish

namespace Node

/-- A node with a declared field of its payload set to a value of the field's type. -/
def setDeclared? (node : Node) (name : String) (value : Json) : Option Node :=
  match name, value with
  | "label", .str label => some { node with label }
  | "status", value => (exactBadge? value).map fun badge => { node with badge }
  | _, value => (node.role.set? name value).map fun role => { node with role }

/-- A node with a field of its payload set by its plain name, without reading the value. A name that
is not declared becomes an undeclared field. -/
def set (node : Node) (name : String) (value : Json) : Node :=
  if node.kind.labels.any (·.plain == name) then
    match node.setDeclared? name value with
    | some changed => { changed with payloadOverrides := changed.payloadOverrides.erase name }
    | none => { node with payloadOverrides := Fields.put node.payloadOverrides name value }
  else { node with payloadExtras := Fields.put node.payloadExtras name value }

def setAll (node : Node) (changes : Fields) : Node :=
  changes.foldl (fun node change => node.set change.1 change.2) node

def withBadge (node : Node) (badge : Badge) : Node := node.set "status" (.str badge.word)

end Node

end ChainFlow
