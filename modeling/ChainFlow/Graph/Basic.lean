import ChainFlow.Graph.Check

/-!
# Drawings

A drawing is a list of nodes and a list of edges, both in the order in which they were drawn, with
the operations that editing it takes.
-/

namespace ChainFlow

structure Graph where
  nodes : List Node
  edges : List Edge

namespace Graph

def readNodes (value : Json) : Except Fault (List Node) := do
  ofReading "list" (Node.readList .document (.arr (← itemsOf value)))

def readEdges (value : Json) : Except Fault (List Edge) := do
  ofReading "list" (Edge.readList .document (.arr (← itemsOf value)))

def empty : Graph := ⟨[], []⟩

def addNode (graph : Graph) (node : Node) : Graph := { graph with nodes := graph.nodes ++ [node] }

def addEdge (graph : Graph) (edge : Edge) : Graph := { graph with edges := graph.edges ++ [edge] }

/-- The drawing without the nodes of an id and without the edges at it. -/
def removeNode (graph : Graph) (id : String) : Graph where
  nodes := graph.nodes.filter (·.id ≠ id)
  edges := graph.edges.filter fun edge => edge.source ≠ id && edge.target ≠ id

/-- The drawing without the edges of an id. -/
def removeEdge (graph : Graph) (id : String) : Graph :=
  { graph with edges := graph.edges.filter (·.id ≠ id) }

def changeFirst (id : String) (change : Node → Node) : List Node → List Node
  | [] => []
  | node :: rest =>
    if node.id == id then change node :: rest else node :: changeFirst id change rest

def update (graph : Graph) (id : String) (changes : Fields) : Except Fault Graph :=
  (besides "FlowGraph.update_node_data" ["self", "node_id"] changes).map fun changes =>
    { graph with nodes := changeFirst id (·.setAll changes) graph.nodes }

/-- The first node of an id. -/
def find? (graph : Graph) (id : String) : Option Node := node? graph.nodes id

def actions (graph : Graph) : List Node := graph.nodes.filter Node.isAction

end Graph

end ChainFlow
