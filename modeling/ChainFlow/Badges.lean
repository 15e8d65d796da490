import ChainFlow.Node.Payload
import ChainFlow.Quote
import ChainFlow.Run

/-!
# Badges

After a dry run or a run the nodes of a drawing show what became of them: estimates of a quote, and
badges. Of several results for one id the last one counts.
-/

namespace ChainFlow

namespace Badge

def lastQuote? (quotes : List Quote) (id : String) : Option Quote :=
  quotes.reverse.find? (·.node == id)

/-- A node with the estimates of its quote, if its payload has a place for them. A quote that failed
shows as a badge too. -/
def showQuote (quotes : List Quote) (node : Node) : Node :=
  match lastQuote? quotes node.id with
  | none => node
  | some quote =>
    if (node.field? "estimated_cost").isNone then node
    else
      let node := node.setAll [("estimated_cost", .str quote.cost),
        ("estimated_time", .int quote.seconds)]
      if quote.success then node else node.withBadge .failed

def afterQuote (nodes : List Node) (quote : FlowQuote) : List Node :=
  nodes.map (showQuote quote.quotes)

def ofOutcome (outcome : Outcome) : Badge := if outcome.success then .completed else .failed

/-- The badge that a run gives to an id, if it has come to it. -/
def inRun? (run : FlowRun) (id : String) : Option Badge :=
  match run.outcomes.reverse.find? (·.node == id) with
  | some outcome => some (ofOutcome outcome)
  | none =>
    if run.status = .executing ∧ run.current = some id ∧ id ≠ "" then some .executing else none

/-- A node with its badge in a run; an action that the run has not come to is pending. -/
def showRun (run : FlowRun) (node : Node) : Node :=
  match inRun? run node.id with
  | some badge => node.withBadge badge
  | none => if node.isAction then node.withBadge .pending else node

def afterRun (nodes : List Node) (run : FlowRun) : List Node := nodes.map (showRun run)

end Badge

end ChainFlow
