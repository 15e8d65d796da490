import ChainFlow.Node.Basic
import ChainFlow.Edge

/-!
# Walking a drawing

A flow runs in the order of a depth-first walk from its start: a node comes before all that is first
reached through it, and the edges out of a node are followed in the order in which they were drawn.
Edges to ids that no node has lead nowhere. A drawing without a start has no walk, and its order is
the one in which its nodes were drawn.

The walk keeps a stack of ids to visit. Every step takes one id off the stack, and puts ids on it
only when it visits a node, which happens once for each node; so `1 + edges.length` steps empty it.
-/

namespace ChainFlow.Graph

/-- The node where a flow starts: the first start node. -/
def startNode? (nodes : List Node) : Option Node := nodes.find? Node.isStart

/-- The first node of an id. -/
def node? (nodes : List Node) (id : String) : Option Node := nodes.find? (·.id == id)

/-- The targets of the edges out of a node, in the order of the edges. -/
def targets (edges : List Edge) (source : String) : List String :=
  (edges.filter (·.source == source)).map (·.target)

/-- The walk that remains, given the ids already visited and the stack of ids to visit. `fuel`
counts the steps. -/
def walkFrom (nodes : List Node) (edges : List Edge) :
    Nat → List String → List String → List Node
  | 0, _, _ => []
  | _ + 1, _, [] => []
  | fuel + 1, visited, id :: stack =>
    if visited.contains id then walkFrom nodes edges fuel visited stack
    else
      match node? nodes id with
      | none => walkFrom nodes edges fuel visited stack
      | some node =>
        node :: walkFrom nodes edges fuel (id :: visited) (targets edges id ++ stack)

def order (nodes : List Node) (edges : List Edge) : List Node :=
  match startNode? nodes with
  | none => nodes
  | some start => walkFrom nodes edges (edges.length + 1) [] [start.id]

def hasEdge (edges : List Edge) (source target : String) : Bool :=
  edges.any (·.joins source target)

end ChainFlow.Graph
