import ChainFlow.Chain
import ChainFlow.Token

/-!
# Nodes

A node of a drawing: where the flow starts, one of the three kinds of action, or where it ends. A
node also carries what only the canvas uses: its place, a label, a status badge, estimates, and
fields that are not declared for its kind.
-/

namespace ChainFlow

inductive Action where
  | stake
  | lend
  | swap
  deriving DecidableEq, Repr

namespace Action

def word : Action → String
  | stake => "stake"
  | lend => "lend"
  | swap => "swap"

def words : List String := [stake.word, lend.word, swap.word]

def ofWord? : String → Option Action
  | "stake" => some stake
  | "lend" => some lend
  | "swap" => some swap
  | _ => none

theorem ofWord?_word (action : Action) : ofWord? action.word = some action := by
  cases action <;> rfl

end Action

/-- The badge that a node shows while a flow runs. -/
inductive Badge where
  | pending
  | executing
  | completed
  | failed
  deriving DecidableEq, Repr

namespace Badge

def word : Badge → String
  | pending => "pending"
  | executing => "executing"
  | completed => "completed"
  | failed => "failed"

def words : List String := [pending.word, executing.word, completed.word, failed.word]

def ofWord? : String → Option Badge
  | "pending" => some pending
  | "executing" => some executing
  | "completed" => some completed
  | "failed" => some failed
  | _ => none

theorem ofWord?_word (badge : Badge) : ofWord? badge.word = some badge := by
  cases badge <;> rfl

end Badge

structure Place where
  x : Binary64
  y : Binary64
  deriving DecidableEq

def Place.origin : Place := ⟨.zero false, .zero false⟩

structure Start where
  chain : ChainId
  token : Token
  amount : Option String
  userAddress : Option String

structure Bridge where
  toChain : ChainId
  amount : String
  fromChain : Option ChainId
  token : Option Token

structure Transfer where
  amount : String
  recipient : String
  chain : Option ChainId
  token : Option Token

structure ContractCall where
  action : Action
  amount : String
  chain : Option ChainId
  token : Option Token
  contract : Option String
  parameters : Option Fields

structure Finish where
  chain : Option ChainId
  expectedToken : Option Token
  expectedAmount : Option String
  description : Option String

inductive Work where
  | bridge (bridge : Bridge)
  | transfer (transfer : Transfer)
  | call (call : ContractCall)

/-- What an action node shows of its last quote. -/
structure Estimate where
  cost : Option String
  seconds : Option Int
  deriving DecidableEq

inductive Role where
  | start (start : Start)
  | action (work : Work) (estimate : Estimate)
  | finish (finish : Finish)

structure Node where
  id : String
  place : Place
  label : String
  badge : Option Badge
  role : Role
  /-- Undeclared fields of the payload. -/
  payloadExtras : Fields
  /-- Values that were set on declared fields of the payload without being of their type. They show
  in place of those fields. -/
  payloadOverrides : Fields
  /-- Undeclared fields of the node itself. -/
  extras : Fields

inductive Kind where
  | start
  | bridge
  | transfer
  | call
  | finish
  deriving DecidableEq, Repr

namespace Kind

def tag : Kind → String
  | start => "start"
  | bridge => "bridge"
  | transfer => "transfer"
  | call => "execute"
  | finish => "end"

def all : List Kind := [start, bridge, transfer, call, finish]

def tags : List String := all.map tag

def ofTag? : String → Option Kind
  | "start" => some start
  | "bridge" => some bridge
  | "transfer" => some transfer
  | "execute" => some call
  | "end" => some finish
  | _ => none

def isAction : Kind → Bool
  | start => false
  | bridge => true
  | transfer => true
  | call => true
  | finish => false

theorem ofTag?_tag (kind : Kind) : ofTag? kind.tag = some kind := by
  cases kind <;> rfl

end Kind

def Role.kind : Role → Kind
  | .start _ => .start
  | .action (.bridge _) _ => .bridge
  | .action (.transfer _) _ => .transfer
  | .action (.call _) _ => .call
  | .finish _ => .finish

namespace Node

def kind (node : Node) : Kind := node.role.kind

def isAction (node : Node) : Bool := node.kind.isAction

def isStart (node : Node) : Bool := node.kind == .start

def start? (node : Node) : Option Start :=
  match node.role with
  | .start start => some start
  | _ => none

def work? (node : Node) : Option Work :=
  match node.role with
  | .action work _ => some work
  | _ => none

def bridge? (node : Node) : Option Bridge :=
  match node.role with
  | .action (.bridge bridge) _ => some bridge
  | _ => none

def call? (node : Node) : Option ContractCall :=
  match node.role with
  | .action (.call call) _ => some call
  | _ => none

end Node

end ChainFlow
