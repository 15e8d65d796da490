import ChainFlow.Fault
import ChainFlow.Schema.Record

/-!
# Runs

An `Outcome` is what performing one node came to. A `FlowRun` is the record of performing a flow:
the outcomes in the order in which they came, the node that was begun last, and when it began and
ended.
-/

namespace ChainFlow

open Schema

structure Outcome where
  node : String
  success : Bool
  hash : Option String
  url : Option String
  error : Option String
  timestamp : Int
  deriving DecidableEq

namespace Outcome

/-- An outcome from data; the time is the present one where it is left out. -/
def read (now : Int) (value : Json) : Reading Outcome :=
  (object .document "ExecutionResult" value).andThen fun fields =>
    Outcome.mk
      <$> required fields ⟨"nodeId", "node_id"⟩ text
      <*> required fields (.same "success") boolean
      <*> optional fields ⟨"transactionHash", "transaction_hash"⟩ text
      <*> optional fields ⟨"explorerUrl", "explorer_url"⟩ text
      <*> optional fields (.same "error") text
      <*> withDefault fields (.same "timestamp") now integer

def dump (outcome : Outcome) : Json := .obj [
  ("nodeId", .str outcome.node), ("success", .bool outcome.success),
  ("transactionHash", .ofString? outcome.hash), ("explorerUrl", .ofString? outcome.url),
  ("error", .ofString? outcome.error), ("timestamp", .int outcome.timestamp)]

end Outcome

inductive RunStatus where
  | executing
  | completed
  | failed
  deriving DecidableEq, Repr

def RunStatus.word : RunStatus → String
  | executing => "executing"
  | completed => "completed"
  | failed => "failed"

structure FlowRun where
  status : RunStatus
  current : Option String
  outcomes : List Outcome
  started : Int
  ended : Option Int
  deriving DecidableEq

namespace FlowRun

def start (now : Int) : FlowRun := ⟨.executing, none, [], now, none⟩

def begin (run : FlowRun) (node : String) : FlowRun := { run with current := some node }

def record (run : FlowRun) (outcome : Outcome) : FlowRun :=
  { run with outcomes := run.outcomes ++ [outcome] }

def finish (run : FlowRun) (status : RunStatus) (now : Int) : FlowRun :=
  { run with status, ended := some now }

/-- The id under which a fault that belongs to no node is recorded. -/
def faultNode : String := "error"

/-- What is said of a fault without words of its own. -/
def faultMessage : String := "Execution failed"

/-- The outcome that stands for a fault. -/
def faultOutcome (fault : Fault) (now : Int) : Outcome :=
  ⟨faultNode, false, none, none, some (fault.messageOr faultMessage), now⟩

def abort (run : FlowRun) (fault : Fault) (now : Int) : FlowRun :=
  (run.record (faultOutcome fault now)).finish .failed now

def isFinal (run : FlowRun) : Bool := run.status ≠ .executing

def firstError (run : FlowRun) : Option String :=
  (run.outcomes.find? (!·.success)).bind (·.error)

def dump (run : FlowRun) : Json := .obj [
  ("status", .str run.status.word), ("currentNodeId", .ofString? run.current),
  ("nodeResults", .arr (run.outcomes.map Outcome.dump)), ("startTime", .int run.started),
  ("endTime", .ofInt? run.ended)]

end FlowRun

end ChainFlow
