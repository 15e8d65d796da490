import ChainFlow.Api.Body
import ChainFlow.Fault
import ChainFlow.Json.Writable

/-!
# Answers to requests

An answer has a status and a body. A number that JSON has no text for is answered as null. A text
that cannot be sent is an internal error.
-/

namespace ChainFlow

namespace Json

/-- The value that a path leads to; a step that leads nowhere is passed over. -/
def along : List Schema.Step → Json → Json
  | [], value => value
  | .field name :: rest, .obj fields => along rest ((Fields.get? fields name).getD (.obj fields))
  | .item index :: rest, .arr items => along rest ((items[index]?).getD (.arr items))
  | _ :: rest, value => along rest value

end Json

namespace Api

inductive Content where
  | json (value : Json)
  | text (text : String)

structure Answer where
  status : Nat
  content : Content

namespace Answer

def internalError : Answer := ⟨500, .text "Internal Server Error"⟩

def json (status : Nat) (value : Json) : Answer :=
  if value.isEncodable then ⟨status, .json value.finite⟩ else internalError

def detail (status : Nat) (detail : Json) : Answer := json status (.obj [("detail", detail)])

def redirected : Answer := ⟨307, .text ""⟩

def canShow (value : Json) : Bool := value.isFinite && value.isEncodable

/-- The answer to a request whose body is refused. The parts of the body that have issues are shown
as they are. -/
def refused : Refusal → Answer
  | .unparsable => detail 400 (.str "There was an error parsing the body")
  | .invalid issues body =>
    if issues.all fun issue => canShow (body.along issue.path) then
      detail 422 (.arr (issues.map fun issue => (issue.under (.field "body")).dump))
    else internalError

def unrunnable (cause : Unrunnable) : Answer :=
  detail 422 (.obj [("error", .str cause.message), ("kind", .str (cause.kind)),
    ("issues", .arr [.str cause.message])])

def noTemplate : Answer := detail 404 (.str "Template not found")

end Answer

end Api

end ChainFlow
