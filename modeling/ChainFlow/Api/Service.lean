import ChainFlow.Api.Answer
import ChainFlow.Api.Route
import ChainFlow.Flow.DryRun
import ChainFlow.Flow.LiveRun
import ChainFlow.Gateway.Session
import ChainFlow.Holdings
import ChainFlow.Template.Store

/-!
# The service

Requests over HTTP: sessions with the gateway, dry runs and runs of drawings, templates, and the
holdings of the user. The session, the templates and the world outlast a request; holdings are asked
for anew each time.
-/

namespace ChainFlow.Api

structure Service (σ : Type) where
  gateway : Gateway σ
  engine : Engine (Client σ)
  /-- The delay between the steps of a run, in milliseconds. -/
  delay : Int
  successRate : Binary64

/-- What outlasts a request. -/
structure State (σ : Type) where
  world : World (Client σ)
  store : TemplateStore

def about : Json := .obj [
  ("name", .str "IntentCompass API"), ("version", .str "0.1.0"),
  ("description", .str "Simulate and execute visual cross-chain DeFi flows"),
  ("docs", .str "/docs"), ("health", .str "/healthz")]

namespace Service

variable {σ : Type}

/-- An answer from what a computation comes to; a fault is an internal error. -/
def orInternal {α : Type} (answer : α → Answer) : Except Fault α → Answer
  | .ok value => answer value
  | .error _ => .internalError

def session (client : Client σ) : Json := .obj [
  ("initialized", .bool client.session.isSome), ("userAddress", .ofString? client.user)]

def health (service : Service σ) (state : State σ) : Answer × State σ :=
  let (health, world) := service.gateway.health.runIn state.world
  let answer (health : Gateway.Health) : Answer :=
    let word := match health with
      | .healthy _ => "healthy"
      | _ => "degraded"
    .json 200 (.obj [("status", .str word), ("backend", health.dump),
      ("live", .bool world.backend.session.isSome)])
  (orInternal answer health, { state with world })

def openSession (service : Service σ) (user : String) (state : State σ) : Answer × State σ :=
  let (opened, world) := (service.gateway.openSession user).runIn state.world
  let answer :=
    match opened with
    | .ok () => Answer.json 200 (session world.backend)
    | .error (.gateway fault) => .detail 502 (.str fault.message)
    | .error _ => .internalError
  (answer, { state with world })

def simulate (service : Service σ) (graph : Graph) (state : State σ) : Answer × State σ :=
  let (quote, world) :=
    service.engine.quoteFlow service.successRate graph.nodes graph.edges state.world
  let answer :=
    match quote with
    | .ok quote => Answer.json 200 quote.dump
    | .error (.unrunnable cause) => .unrunnable cause
    | .error _ => .internalError
  (answer, { state with world })

/-- Runs a drawing; what goes wrong stands in the record of the run. -/
def execute (service : Service σ) (graph : Graph) (state : State σ) : Answer × State σ :=
  let (run, world) :=
    service.engine.performFlow service.delay none graph.nodes graph.edges state.world
  (.json 200 run.dump, { state with world })

def validate (graph : Graph) : Answer :=
  orInternal (fun issues =>
    let issues :=
      match Graph.requireRunnable graph.nodes with
      | .ok _ => issues
      | .error cause =>
        if issues.contains cause.message then issues else issues ++ [cause.message]
    .json 200 (.obj [("valid", .bool issues.isEmpty), ("issues", .arr (issues.map .str))]))
    (Graph.issues graph.nodes graph.edges)

def template (status : Nat) (template : Template) : Answer :=
  if template.fitsLevels then .json status (template.dump .full) else .internalError

def templates (templates : List Template) : Answer :=
  if templates.all (·.fitsLevels) then .json 200 (.arr (templates.map (·.dump .full)))
  else .internalError

def found : Option Template → Answer
  | some found => template 200 found
  | none => .noTemplate

def save (draft : Draft) (state : State σ) : Answer × State σ :=
  let (saved, store) :=
    state.store.save state.world.clock draft.name draft.description draft.graph draft.tags
  (orInternal (template 201) saved, { state with store })

def update (id : String) (changes : Fields) (state : State σ) : Answer × State σ :=
  let (updated, store) := state.store.update state.world.clock id changes
  (orInternal found updated, { state with store })

def delete (id : String) (state : State σ) : Answer × State σ :=
  let (deleted, store) := state.store.delete state.world.clock id
  let answer (deleted : Bool) : Answer :=
    if deleted then .json 200 (.obj [("deleted", .bool true), ("id", .str id)]) else .noTemplate
  (orInternal answer deleted, { state with store })

def balances (service : Service σ) (state : State σ) : Answer × State σ :=
  let (statement, _, world) := service.engine.holdings 0 true none state.world
  (orInternal (.json 200 ·.dump) statement, { state with world })

def withBody {α : Type} (body : Body) (read : Json → Schema.Reading α)
    (answer : α → State σ → Answer × State σ) (state : State σ) : Answer × State σ :=
  match body.read read with
  | .ok value => answer value state
  | .error refusal => (.refused refusal, state)

def atEndpoint (service : Service σ) (endpoint : Endpoint) (body : Body) (state : State σ) :
    Answer × State σ :=
  let now := state.world.clock
  match endpoint with
  | .about => (.json 200 Api.about, state)
  | .health => service.health state
  | .sessionStatus => (.json 200 (session state.world.backend), state)
  | .openSession => withBody body readUser service.openSession state
  | .simulate => withBody body readGraph service.simulate state
  | .execute => withBody body readGraph service.execute state
  | .validate => withBody body readGraph (fun graph state => (validate graph, state)) state
  | .templates => (orInternal templates (state.store.saved now), state)
  | .exampleTemplates => (templates (Template.examples now), state)
  | .template id => (orInternal found (state.store.find? now id), state)
  | .saveTemplate => withBody body Draft.read save state
  | .updateTemplate id => withBody body readChanges (update id) state
  | .deleteTemplate id => delete id state
  | .balances => service.balances state

def answer (service : Service σ) (verb path : String) (body : Body) (state : State σ) :
    Answer × State σ :=
  match route verb path with
  | .endpoint endpoint => service.atEndpoint endpoint body state
  | .wrongVerb => (.detail 405 (.str "Method Not Allowed"), state)
  | .elsewhere => (.redirected, state)
  | .nowhere => (.detail 404 (.str "Not Found"), state)

end Service

end ChainFlow.Api
