import ChainFlow.Edge
import ChainFlow.Gateway.Session
import ChainFlow.Node.Basic
import ChainFlow.World

/-!
# Plain drawings

Nodes and edges with nothing on them but what a flow reads, backends that are always there and
gateways that always answer the same, for statements about one drawing or one request.
-/

namespace ChainFlow.Sample

/-- A node with nothing for the canvas on it. -/
def node (id : String) (role : Role) : Node := ⟨id, .origin, "", none, role, [], [], []⟩

def start (id : String) (chain : ChainId) : Node := node id (.start ⟨chain, .usdc, none, none⟩)

def bridge (id : String) (chain : ChainId) (amount : String) : Node :=
  node id (.action (.bridge ⟨chain, amount, none, none⟩) ⟨none, none⟩)

def transfer (id amount recipient : String) : Node :=
  node id (.action (.transfer ⟨amount, recipient, none, none⟩) ⟨none, none⟩)

def call (id : String) (action : Action) (amount : String) : Node :=
  node id (.action (.call ⟨action, amount, none, none, none, none⟩) ⟨none, none⟩)

def finish (id : String) : Node := node id (.finish ⟨none, none, none, none⟩)

def edge (source target : String) : Edge := ⟨"", source, target, none, none, none, none, []⟩

/-- A drawing with a loop, an edge from a node to itself, an edge to an id that no node has, two
edges that are alike, an id that two nodes have and two starts. -/
def nodes : List Node :=
  [start "s" 84532, bridge "b" 11155111 "5", call "c" .stake "2.5", transfer "t" "1" "0xabc",
    start "t" 80002, finish "e"]

def edges : List Edge :=
  [edge "s" "b", edge "s" "t", edge "b" "c", edge "c" "s", edge "c" "c", edge "b" "ghost",
    edge "b" "e", edge "b" "c"]

/-- A backend that is live for a user and reports success for everything. -/
def backend : Backend Unit where
  isLive state := (true, state)
  user _ := some "0xuser"
  answer _ state := (⟨.ok (.obj [("success", .bool true)]), 0⟩, state)

/-- A backend that is live and answers every call with a fault. -/
def failing : Backend Unit where
  isLive state := (true, state)
  user _ := some "0xuser"
  answer _ state := (⟨.error (.gateway (.unreachable "connection refused")), 0⟩, state)

def engine : Engine Unit where
  backend := some backend
  vaults := Vaults.standard
  bridgeCost := .finite false 25 (-1)
  latency := 0
  explorer := none
  draw _ := .zero false

/-- The engine with the backend that answers nothing. -/
def failingEngine : Engine Unit := { engine with backend := some failing }

/-- A gateway that gives one answer to every request, at once. -/
def gateway (status : Int) (body : String) : Gateway Unit :=
  ⟨.standard, fun _ state => (⟨.answered status body, 0⟩, state)⟩

/-- The engine with a gateway for a backend. -/
def engineOf {σ : Type} (gateway : Gateway σ) : Engine (Client σ) where
  backend := some gateway.backend
  vaults := Vaults.standard
  bridgeCost := .finite false 25 (-1)
  latency := 0
  explorer := none
  draw _ := .zero false

/-- The world of a session that is open for a user. -/
def inSession (user : String) : World (Client Unit) :=
  World.fresh 0 ⟨some (.str "s"), some user, none, ()⟩

/-- A drawing with a bridge of no amount and a contract call right behind it. -/
def brokenNodes : List Node :=
  [start "s" 84532, bridge "b" 11155111 "abc", call "c" .stake "5"]

def brokenEdges : List Edge := [edge "s" "b", edge "b" "c"]

end ChainFlow.Sample
