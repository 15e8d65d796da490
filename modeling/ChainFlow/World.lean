import ChainFlow.Receipt
import ChainFlow.Request
import ChainFlow.Run

/-!
# Worlds

Everything outside that a flow touches while it is quoted or performed: a clock, a source of numbers
for estimates, a source of transaction hashes, and a backend with a state of its own. A `World` is
all of this at one moment, with a journal of what has happened; an `Act` is a computation that moves
a world on and yields a value or a fault. A fault does not undo what has happened before it.

Nothing is known of a backend but what it answers: every question may change its state, also the
question whether it is live.
-/

namespace ChainFlow

/-- What a backend answers to a call, and how long the answer takes, in milliseconds. -/
structure Reply where
  answer : Except Fault Json
  elapsed : Int

structure Backend (σ : Type) where
  isLive : σ → Bool × σ
  user : σ → Option String
  answer : Call → σ → Reply × σ

inductive Pause where
  /-- Between two steps, so that progress can be seen. -/
  | pacing (milliseconds : Int)
  /-- For a transaction that is only pretended. -/
  | latency (milliseconds : Int)
  deriving DecidableEq

def Pause.milliseconds : Pause → Int
  | pacing milliseconds => milliseconds
  | latency milliseconds => milliseconds

inductive Event where
  | began (nodes : List String)
  | sent (call : Call)
  | paused (pause : Pause)
  /-- An outcome of a step was added to the record of a run. -/
  | recorded (outcome : Outcome)
  | notified (outcome : Outcome)
  /-- A run was ended by a fault, which was added to its record. -/
  | aborted (fault : Fault)

structure World (σ : Type) where
  /-- Milliseconds since the epoch. -/
  clock : Int
  /-- How many numbers have been drawn. -/
  drawn : Nat
  /-- How many hashes have been issued. -/
  issued : Nat
  journal : List Event
  backend : σ

namespace World

variable {σ : Type}

/-- The world at a time, with nothing drawn, issued or done. -/
def fresh (clock : Int) (backend : σ) : World σ := ⟨clock, 0, 0, [], backend⟩

def log (world : World σ) (event : Event) : World σ :=
  { world with journal := world.journal ++ [event] }

def advance (world : World σ) (milliseconds : Int) : World σ :=
  { world with clock := world.clock + milliseconds }

def calls (world : World σ) : List Call :=
  world.journal.filterMap fun
    | .sent call => some call
    | _ => none

def pauses (world : World σ) : List Pause :=
  world.journal.filterMap fun
    | .paused pause => some pause
    | _ => none

def notices (world : World σ) : List Outcome :=
  world.journal.filterMap fun
    | .notified outcome => some outcome
    | _ => none

def pause (world : World σ) (pause : Pause) : World σ :=
  (world.advance pause.milliseconds).log (.paused pause)

end World

abbrev Act (σ α : Type) := EStateM Fault (World σ) α

namespace Act

variable {σ α : Type}

/-- A computation that has no effect on the world. -/
def ofExcept (result : Except Fault α) : Act σ α := fun world =>
  match result with
  | .ok value => .ok value world
  | .error fault => .error fault world

/-- A computation whose fault, if it comes to one, is a value. -/
def attempt (act : Act σ α) : Act σ (Except Fault α) := fun world =>
  match act world with
  | .ok value world => .ok (.ok value) world
  | .error fault world => .ok (.error fault) world

def runIn (act : Act σ α) (world : World σ) : Except Fault α × World σ :=
  match act world with
  | .ok value world => (.ok value, world)
  | .error fault world => (.error fault, world)

def now : Act σ Int := fun world => .ok world.clock world

end Act

structure Engine (σ : Type) where
  backend : Option (Backend σ)
  vaults : Vaults
  /-- What a bridge costs before the part that grows with its amount. -/
  bridgeCost : Decimal
  /-- How long a pretended transaction takes, in milliseconds. -/
  latency : Int
  /-- The explorer for chains that have none of their own. -/
  explorer : Option String
  /-- The numbers that estimates draw, all from zero up to one. -/
  draw : Nat → Binary64

namespace Engine

variable {σ : Type}

/-- Whether calls go to a backend, and the world after the question. -/
def probe (engine : Engine σ) (world : World σ) : Bool × World σ :=
  match engine.backend with
  | none => (false, world)
  | some backend =>
    let (live, state) := backend.isLive world.backend
    (live, { world with backend := state })

def isLive (engine : Engine σ) : Act σ Bool := fun world =>
  let (live, world) := engine.probe world
  .ok live world

/-- The answer of the backend to a call. The call is in the journal whatever the answer is. -/
def send (engine : Engine σ) (call : Call) : Act σ Json := fun world =>
  match engine.backend with
  | none => .error .notConnected world
  | some backend =>
    let (reply, state) := backend.answer call world.backend
    let world := { (world.log (.sent call)).advance reply.elapsed with backend := state }
    match reply.answer with
    | .ok answer => .ok answer world
    | .error fault => .error fault world

/-- The answer of the backend to a request. A request that cannot be written down is not sent. -/
def ask (engine : Engine σ) (purpose : Purpose) (request : Request) : Act σ Json := fun world =>
  let user := (engine.backend.bind (·.user world.backend)).getD ""
  match request.toCall purpose user with
  | .ok call => engine.send call world
  | .error fault => .error fault world

def drawNext (engine : Engine σ) : Act σ Binary64 := fun world =>
  .ok (engine.draw world.drawn) { world with drawn := world.drawn + 1 }

/-- A transaction hash that has not been issued before: `0x` and a number in 64 hexadecimal
digits. -/
def issueHash : Act σ String := fun world =>
  let number := world.issued + 1
  .ok (String.ofList ('0' :: 'x' :: Text.hex 64 number)) { world with issued := number }

/-- Waits, if there is anything to wait for. -/
def wait (pause : Pause) : Act σ Unit := fun world =>
  if pause.milliseconds = 0 then .ok () world else .ok () (world.pause pause)

end Engine

end ChainFlow
