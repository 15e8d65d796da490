import ChainFlow.Http.Url
import ChainFlow.Text.Case

/-!
# Routes

Which endpoint a request is for, by the verb, in letters of either case, and the path. A path that
only differs by a slash at its end is sent to the one without it, or with it.
-/

namespace ChainFlow.Api

inductive Endpoint where
  | about
  | health
  | sessionStatus
  | openSession
  | simulate
  | execute
  | validate
  | templates
  | exampleTemplates
  | template (id : String)
  | saveTemplate
  | updateTemplate (id : String)
  | deleteTemplate (id : String)
  | balances
  deriving DecidableEq

inductive Destination where
  | endpoint (endpoint : Endpoint)
  /-- The path is known, but not with this verb. -/
  | wrongVerb
  /-- The path is known with another ending. -/
  | elsewhere
  | nowhere
  deriving DecidableEq

def home : Http.Url := ⟨"http".toList, [], "service".toList, none, ['/'], none, none⟩

/-- The address that a path stands for. A path that names a host of its own is an address already. -/
def address (path : List Char) : Except Http.UrlDefect Http.Url := do
  let url ← Http.Url.read path
  if url.scheme.isEmpty || url.host.isEmpty then home.below url.target else return url

/-- A path in its plainest form, without its query and with all characters as they are. -/
def plainPath (path : String) : String :=
  let path := path.toList
  String.ofList (match address path with
    | .ok url => url.plainTarget
    | .error _ => Http.Percent.decode (path.takeWhile fun c => c ≠ '?' ∧ c ≠ '#'))

/-- The last part of a path as it is compared: a line feed at its end does not count. -/
def page (part : String) : String :=
  if part.endsWith "\n" then (part.dropEnd 1).toString else part

def endpoints (path : String) : List (String × Endpoint) :=
  match (path.toList.splitOn '/').map String.ofList with
  | ["", part] =>
    match page part with
    | "" => [("GET", .about)]
    | "healthz" => [("GET", .health)]
    | "session" => [("POST", .openSession), ("GET", .sessionStatus)]
    | "templates" => [("GET", .templates), ("POST", .saveTemplate)]
    | "balances" => [("GET", .balances)]
    | _ => []
  | ["", "flows", part] =>
    match page part with
    | "simulate" => [("POST", .simulate)]
    | "execute" => [("POST", .execute)]
    | "validate" => [("POST", .validate)]
    | _ => []
  | ["", "templates", id] =>
    if id = "" then []
    else
      [("GET", if page id = "examples" then .exampleTemplates else .template id),
        ("PUT", .updateTemplate id), ("DELETE", .deleteTemplate id)]
  | _ => []

/-- A path with a slash at its end, or without one if there is one. -/
def otherEnding (path : String) : String :=
  if path.endsWith "/" then String.ofList (path.toList.reverse.dropWhile (· = '/')).reverse
  else path ++ "/"

def route (verb path : String) : Destination :=
  let path := plainPath path
  match endpoints path with
  | [] =>
    if path ≠ "/" ∧ endpoints (otherEnding path) ≠ [] then .elsewhere else .nowhere
  | known =>
    match known.lookup (Text.upper verb) with
    | some endpoint => .endpoint endpoint
    | none => .wrongVerb

end ChainFlow.Api
