import ChainFlow.Http.Exchange
import ChainFlow.World

/-!
# Prepared replies

A backend and a transport whose replies are prepared in advance, in a queue for each thing that can
be asked. Each reply is given once; an empty queue has an answer of its own.
-/

namespace ChainFlow

abbrev Queues (α : Type) := List (String × List α)

/-- The next reply of a queue, and the queues without it. -/
def Queues.take {α : Type} : Queues α → String → Option α × Queues α
  | [], _ => (none, [])
  | (key, replies) :: rest, name =>
    if key = name then
      match replies with
      | [] => (none, (key, []) :: rest)
      | reply :: replies => (some reply, (key, replies) :: rest)
    else
      let (reply, rest) := Queues.take rest name
      (reply, (key, replies) :: rest)

structure Cue where
  answer : Except Fault Json
  /-- Whether a session is open from now on, if that changes. -/
  live : Option Bool
  elapsed : Int

structure Script where
  live : Bool
  user : Option String
  cues : Queues Cue

namespace Script

def answer (call : Call) (script : Script) : Reply × Script :=
  match Queues.take script.cues call.method.name with
  | (none, cues) =>
    (⟨.error (.raised .runtime s!"no reply for {call.method.name}"), 0⟩, { script with cues })
  | (some cue, cues) =>
    (⟨cue.answer, cue.elapsed⟩, { script with cues, live := cue.live.getD script.live })

def backend : Backend Script where
  isLive script := (script.live, script)
  user script := script.user
  answer := answer

end Script

/-- A gateway's side of a conversation whose answers are prepared, with the requests it has
received. -/
structure Switchboard where
  answers : Queues Http.Exchange
  requests : List Http.Request

namespace Switchboard

def noRoute : Http.Exchange := ⟨.answered 404 "no route", 0⟩

def route (request : Http.Request) : String :=
  s!"{request.verb.word} {String.ofList request.url.plainTarget}"

def transport : Http.Transport Switchboard := fun request board =>
  let (answer, answers) := Queues.take board.answers (route request)
  (answer.getD noRoute, ⟨answers, board.requests ++ [request]⟩)

end Switchboard

end ChainFlow
