import ChainFlow.Http.Exchange
import ChainFlow.Json.Reader
import ChainFlow.World

/-!
# Sessions with a gateway

A gateway is a backend that is asked over HTTP. A session is opened once, for a user; its id goes
with every later request. Only the statuses 200 and 201 are answers, and only an object is one. The
connection is made for the first request, and anew for the first one after a close; the session
outlasts it.
-/

namespace ChainFlow

structure GatewayConfig where
  baseUrl : String
  /-- No key is sent if it is empty. -/
  apiKey : String
  network : String

def GatewayConfig.standard : GatewayConfig := ⟨"http://127.0.0.1:8787", "", "testnet"⟩

/-- What every request starts from: the address of the gateway, which ends in a slash, and the key
for it. -/
structure Connection where
  base : Http.Url
  apiKey : Option String

structure Client (σ : Type) where
  session : Option Json
  user : Option String
  connection : Option Connection
  transport : σ

structure Gateway (σ : Type) where
  config : GatewayConfig
  transport : Http.Transport σ

def Operation.path : Operation → String
  | bridge => "/v1/bridge"
  | transfer => "/v1/transfer"
  | call => "/v1/execute"
  | bridgeAndCall => "/v1/bridge-and-execute"

def Method.path : Method → String
  | on .quote operation => operation.path ++ "/simulate"
  | on .perform operation => operation.path
  | balances => "/v1/balances"

namespace Gateway

variable {σ : Type}

def stranger (transport : σ) : Client σ := ⟨none, none, none, transport⟩

/-- A header from a value: text in ASCII. -/
def header (value : Json) : Except Fault String :=
  match value with
  | .str text =>
    if text.toList.all (·.toNat < 128) then .ok text else .error (.badHeader (.str text))
  | value => .error (.badHeader value)

def keyHeader (gateway : Gateway σ) : Except Fault (Option String) :=
  if gateway.config.apiKey = "" then .ok none
  else (header (.str gateway.config.apiKey)).map some

def checkBody (body : Json) : Except Fault Unit := do
  if !body.isFinite then .error .notFinite
  match Text.unencodable? (fun _ => false) body.sent with
  | some found => .error (.notUtf8 found)
  | none => .ok ()

/-- Checks that the host of an address can be named in a header. -/
def checkHost (url : Http.Url) : Except Fault Unit := do
  if DomainName.encodedMark.isPrefixOf url.host then
    let _ ← (DomainName.decode url.host).mapError Fault.badName
  let _ ← header (.str (String.ofList url.location))

def connection (gateway : Gateway σ) : Except Fault Connection := do
  let base ← ofUrl ((Http.Url.read gateway.config.baseUrl.toList).bind (·.folder))
  return ⟨base, ← gateway.keyHeader⟩

/-- The connection of a client. It is made if there is none. -/
def connect (gateway : Gateway σ) (client : Client σ) : Except Fault (Connection × Client σ) :=
  match client.connection with
  | some connection => .ok (connection, client)
  | none => gateway.connection.map fun connection =>
    (connection, { client with connection := some connection })

/-- A request as it is sent; `session` is the id that goes with it. -/
def compose (connection : Connection) (verb : Http.Verb) (path : String) (body : Option Json)
    (session : Option Json) : Except Fault Http.Request := do
  let url ← ofUrl (connection.base.below path.toList)
  let session ← session.mapM header
  body.forM checkBody
  checkHost url
  return ⟨verb, url, body, session, connection.apiKey⟩

/-- A request that is ready to be sent, and the client, which is connected then. -/
def prepare (gateway : Gateway σ) (verb : Http.Verb) (path : String) (body : Option Json)
    (session : Option Json) (client : Client σ) : Except Fault Http.Request × Client σ :=
  match gateway.connect client with
  | .error fault => (.error fault, client)
  | .ok (connection, client) => (compose connection verb path body session, client)

/-- Sends a request. An answer is of use only if the address names a type. -/
def exchange (gateway : Gateway σ) (request : Http.Request) (client : Client σ) :
    Except Fault Http.Response × Int × Client σ :=
  let (exchange, transport) := gateway.transport request client.transport
  let response :=
    match exchange.response with
    | .unreachable reason => .ok (.unreachable reason)
    | answered => if request.url.hasType then .ok answered else .error (.noType request.address)
  (response, exchange.elapsed, { client with transport })

def decode (verb : Http.Verb) (path : String) : Http.Response → Except Fault Fields
  | .unreachable reason => .error (.gateway (.unreachable reason))
  | .answered status body =>
    if status = 200 ∨ status = 201 then
      match Json.parseBytes body.toList with
      | .error ⟨.depth container, _⟩ => .error (.tooDeep container)
      | .error _ => .error (.gateway (.notJson path status))
      | .ok (.obj fields) => .ok fields
      | .ok answer => .error (.gateway (.notObject path answer))
    else .error (.gateway (.refused verb.word path body status))

def submit (gateway : Gateway σ) (verb : Http.Verb) (path : String) (body : Option Json)
    (session : Option Json) (client : Client σ) : Except Fault Fields × Int × Client σ :=
  match gateway.prepare verb path body session client with
  | (.error fault, client) => (.error fault, 0, client)
  | (.ok request, client) =>
    let (response, elapsed, client) := gateway.exchange request client
    (response.bind (decode verb path), elapsed, client)

def ask (gateway : Gateway σ) (verb : Http.Verb) (path : String) (body : Option Json)
    (client : Client σ) : Except Fault Fields × Int × Client σ :=
  match client.session with
  | none => (.error .notConnected, 0, client)
  | some id => gateway.submit verb path body (some id) client

def listed (fields : Fields) : Json := (Fields.get? fields "assets").getD (.arr [])

def answer (gateway : Gateway σ) (call : Call) (client : Client σ) : Reply × Client σ :=
  match call.method with
  | .balances =>
    let (answer, elapsed, client) := gateway.ask .get call.method.path none client
    (⟨answer.map listed, elapsed⟩, client)
  | .on .. =>
    let (answer, elapsed, client) := gateway.ask .post call.method.path (some call.payload) client
    (⟨answer.map .obj, elapsed⟩, client)

def backend (gateway : Gateway σ) : Backend (Client σ) where
  isLive client := (client.session.isSome, client)
  user client := client.user
  answer := gateway.answer

def sessionsPath : String := "/v1/sessions"

def sessionOf (fields : Fields) : Except Fault Json :=
  match Fields.get? fields "sessionId" with
  | some id => if id.truthy then .ok id else .error (.gateway .noSession)
  | none => .error (.gateway .noSession)

/-- What a session is asked for with. -/
def introduction (gateway : Gateway σ) (user : String) : Json :=
  .obj [("userAddress", .str user), ("network", .str gateway.config.network)]

/-- Opens a session for a user. A session that is open already stays so if this fails. -/
def openSession (gateway : Gateway σ) (user : String) : Act (Client σ) Unit := fun world =>
  let (answer, elapsed, client) :=
    gateway.submit .post sessionsPath (some (gateway.introduction user)) none world.backend
  let world := { world.advance elapsed with backend := client }
  match answer.bind sessionOf with
  | .ok id => .ok () { world with backend := { client with session := some id, user := some user } }
  | .error fault => .error fault world

inductive Health where
  | healthy (inSession : Bool)
  | degraded (status : Int)
  | unreachable (reason : String)

def healthPath : String := "/health"

def health (gateway : Gateway σ) : Act (Client σ) Health := fun world =>
  match gateway.prepare .get healthPath none none world.backend with
  | (.error fault, client) => .error fault { world with backend := client }
  | (.ok request, client) =>
    let (response, elapsed, client) := gateway.exchange request client
    let world := { world.advance elapsed with backend := client }
    match response with
    | .error fault => .error fault world
    | .ok (.unreachable reason) => .ok (.unreachable reason) world
    | .ok (.answered status _) =>
      if status = 200 then .ok (.healthy client.session.isSome) world
      else .ok (.degraded status) world

def Health.dump : Health → Json
  | healthy inSession => .obj [("status", .str "healthy"), ("initialized", .bool inSession)]
  | degraded status => .obj [("status", .str "degraded"), ("code", .int status)]
  | unreachable reason => .obj [("status", .str "error"), ("reason", .str reason)]

/-- Gives up the connection. A session that is open stays so. -/
def close : Act (Client σ) Unit := fun world =>
  .ok () { world with backend := { world.backend with connection := none } }

end Gateway

end ChainFlow
