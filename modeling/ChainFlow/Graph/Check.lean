import ChainFlow.Fault
import ChainFlow.Graph.Walk
import ChainFlow.Node.Payload

/-!
# Checking a drawing

`Graph.issues` lists the structural rules that a drawing breaks: ids are distinct, there is exactly
one start, edges join nodes that are there, and chains are supported. `Graph.requireRunnable` is the
separate question of whether there is anything to run.
-/

namespace ChainFlow.Graph

/-- The nodes whose id an earlier node has. -/
def duplicates : List String → List Node → List Node
  | _, [] => []
  | seen, node :: rest =>
    if seen.contains node.id then node :: duplicates seen rest
    else duplicates (node.id :: seen) rest

def startIssues (nodes : List Node) : List String :=
  match nodes.countP Node.isStart with
  | 0 => [Unrunnable.noStart.message]
  | 1 => []
  | count => [s!"Flow must have exactly one start node, found {count}"]

def edgeIssues (nodes : List Node) (edge : Edge) : List String :=
  let known (id : String) : Bool := nodes.any (·.id == id)
  (if known edge.source then []
    else [s!"Edge {edge.id} references unknown source node {edge.source}"]) ++
  (if known edge.target then []
    else [s!"Edge {edge.id} references unknown target node {edge.target}"])

/-- Whether a value is the id of a supported chain. A list or an object cannot be looked up. -/
def isSupportedChain (value : Json) : Except Fault Bool :=
  match value with
  | .arr _ => .error (.notAKey value)
  | .obj _ => .error (.notAKey value)
  | value => .ok (value.numeral?.any Chain.isSupported)

def chainIssues (node : Node) (field : String) : Except Fault (List String) :=
  match node.field? field with
  | none => .ok []
  | some .null => .ok []
  | some value => do
    if ← isSupportedChain value then return []
    else return [s!"Node {node.id} uses unsupported chain {value.plain}"]

def nodeChainIssues (node : Node) : Except Fault (List String) := do
  return (← chainIssues node "chain") ++ (← chainIssues node "to_chain")

def allChainIssues : List Node → Except Fault (List String)
  | [] => .ok []
  | node :: rest => do return (← nodeChainIssues node) ++ (← allChainIssues rest)

/-- The structural rules that a drawing breaks, in words. -/
def issues (nodes : List Node) (edges : List Edge) : Except Fault (List String) := do
  let repeated := (duplicates [] nodes).map fun node => s!"Duplicate node id: {node.id}"
  let chains ← allChainIssues nodes
  return repeated ++ startIssues nodes ++ edges.flatMap (edgeIssues nodes) ++ chains

def hasAction (nodes : List Node) : Bool := nodes.any Node.isAction

/-- Where a flow starts, if there is anything to run. -/
def requireRunnable (nodes : List Node) : Except Unrunnable (Node × Start) :=
  if nodes.isEmpty then .error .noNodes
  else
    match startNode? nodes with
    | none => .error .noStart
    | some node =>
      match node.start? with
      | none => .error .noStart
      | some start => if hasAction nodes then .ok (node, start) else .error .noAction

end ChainFlow.Graph
