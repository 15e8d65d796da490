import ChainFlow.Fault
import ChainFlow.Schema.Record

/-!
# Quotes

A `Quote` is what a dry run finds out about one node: a cost and a time, or why there is none. A
`FlowQuote` sums the quotes of a flow; `Tally` is the sum while it grows. The success rate is a flag
rather than a probability: a configured number if every quote succeeded, else zero.
-/

namespace ChainFlow

open Schema

structure Quote where
  node : String
  success : Bool
  cost : String
  seconds : Int
  route : Option (List String)
  error : Option String
  deriving DecidableEq

namespace Quote

def failed (node error : String) : Quote := ⟨node, false, "0", 0, none, some error⟩

def read (value : Json) : Reading Quote :=
  (object .document "SimulationResult" value).andThen fun fields =>
    Quote.mk
      <$> required fields ⟨"nodeId", "node_id"⟩ text
      <*> required fields (.same "success") boolean
      <*> withDefault fields ⟨"estimatedCost", "estimated_cost"⟩ "0" text
      <*> withDefault fields ⟨"estimatedTime", "estimated_time"⟩ 0 integer
      <*> optional fields (.same "route") (list text)
      <*> optional fields (.same "error") text

def dump (quote : Quote) : Json := .obj [
  ("nodeId", .str quote.node), ("success", .bool quote.success),
  ("estimatedCost", .str quote.cost), ("estimatedTime", .int quote.seconds),
  ("route", .ofOption (fun route => .arr (route.map .str)) quote.route),
  ("error", .ofString? quote.error)]

end Quote

structure FlowQuote where
  totalCost : String
  totalSeconds : Int
  successRate : Binary64
  quotes : List Quote
  deriving DecidableEq

def FlowQuote.dump (quote : FlowQuote) : Json := .obj [
  ("totalCost", .str quote.totalCost), ("totalTime", .int quote.totalSeconds),
  ("successRate", .float quote.successRate), ("nodeResults", .arr (quote.quotes.map Quote.dump))]

structure Tally where
  quotes : List Quote
  cost : Decimal
  seconds : Int

namespace Tally

def empty : Tally := ⟨[], .ofNat 0, 0⟩

/-- A sum of costs with one more. A cost that is no numeral, and a sum that is undefined, add
nothing. -/
def addCost (sum : Decimal) (cost : String) : Except Fault Decimal :=
  match Decimal.parse cost.toList with
  | .error _ => .ok sum
  | .ok cost =>
    match sum.add cost with
    | .ok sum => .ok sum
    | .error .overflow => .error (.arithmetic .overflow)
    | .error _ => .ok sum

/-- The sum with one more quote. A quote that failed counts neither its cost nor its time. A sum of
costs that overflows is a fault, and then the quote is in the list all the same. -/
def add (tally : Tally) (quote : Quote) : Except Fault Unit × Tally :=
  let tally := { tally with quotes := tally.quotes ++ [quote] }
  if quote.success then
    match addCost tally.cost quote.cost with
    | .ok cost => (.ok (), { tally with cost, seconds := tally.seconds + quote.seconds })
    | .error fault => (.error fault, tally)
  else (.ok (), tally)

def allSucceeded (tally : Tally) : Bool := tally.quotes.all Quote.success

/-- The quote of the flow. The total cost is rounded to two places, a half to the even one. -/
def build (tally : Tally) (rate : Binary64) : Except Fault FlowQuote :=
  (ofSignal (Decimal.quantize .halfEven tally.cost (-2))).map fun cost =>
    ⟨cost.toText, tally.seconds, if tally.allSucceeded then rate else .zero false, tally.quotes⟩

end Tally

end ChainFlow
