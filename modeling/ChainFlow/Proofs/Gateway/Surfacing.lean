import ChainFlow.Errand
import ChainFlow.Proofs.Gateway.Request
import ChainFlow.Proofs.Sample
import ChainFlow.Proofs.World.Inquiry

/-!
# What comes to the surface of a failing gateway

Whatever is asked of a gateway ends in what the answer is taken for or in a failure of the gateway,
unless the request cannot be made or the response is garbled: it passes for an answer and is none
(`Surfaces`). This holds of errands, of opening a session and, without failures of the gateway, of its
health (`requests_surface`). An object that is not what an operation answers with is such a response
(`bridge_misfit`).
-/

namespace ChainFlow

variable {σ : Type} {gateway : Gateway σ} {engine : Engine (Client σ)} {world : World (Client σ)}

/-! ## Faults of what is no answer -/

/-- A fault that is none of the gateway. -/
def Escapes {α : Type} (result : Except Fault α) : Prop :=
  ∃ fault, result = .error fault ∧ ¬ fault.IsOfGateway

instance {α : Type} (result : Except Fault α) : Decidable (Escapes result) :=
  match result with
  | .ok _ => isFalse (by rintro ⟨_, ⟨⟩, _⟩)
  | .error fault =>
    decidable_of_iff (¬ fault.IsOfGateway)
      ⟨fun other => ⟨fault, rfl, other⟩, by rintro ⟨_, ⟨⟩, other⟩; exact other⟩

/-- A response that passes for an answer and is none. -/
inductive Garbles {α : Type} (take : Fields → Except Fault α) (request : Http.Request) :
    Http.Response → Prop
  | tooDeep {response : Http.Response} (container : Json.Container)
      (deep : response.IsTooDeep container) : Garbles take request response
  | misfit {response : Http.Response} {fields : Fields} (answers : response.Answers fields)
      (escapes : Escapes (take fields)) : Garbles take request response
  | noType (status : Int) (body : String) (untyped : request.url.hasType = false) :
      Garbles take request (.answered status body)

theorem Gateway.Understood.escapes_iff {α : Type} {take : Fields → Except Fault α}
    {request : Http.Request} {response : Http.Response} {result : Except Fault Fields}
    (understood : Understood request response result) :
    Escapes (result.bind take) ↔ Garbles take request response := by
  cases understood with
  | answer typed answers =>
      refine ⟨.misfit answers, ?_⟩
      rintro (⟨container, deep⟩ | ⟨same, escapes⟩ | ⟨_, _, untyped⟩)
      · exact absurd deep (answers.not_isTooDeep container)
      · cases answers.unique same
        exact escapes
      · rw [typed] at untyped
        cases untyped
  | refused fault silent shallow typed =>
      constructor
      · rintro ⟨_, ⟨⟩, other⟩
        exact absurd ⟨fault, rfl⟩ other
      · rintro (⟨container, deep⟩ | ⟨answers, _⟩ | ⟨_, _, untyped⟩)
        · exact absurd deep (shallow container)
        · exact absurd answers (silent _)
        · rcases typed with typed | ⟨_, same⟩
          · rw [typed] at untyped
            cases untyped
          · cases same
  | tooDeep typed deep =>
      refine ⟨fun _ => .tooDeep _ deep, fun _ => ⟨_, rfl, ?_⟩⟩
      rintro ⟨cause, ⟨⟩⟩
  | noType status body untyped =>
      refine ⟨fun _ => .noType status body untyped, fun _ => ⟨_, rfl, ?_⟩⟩
      rintro ⟨cause, ⟨⟩⟩

theorem Gateway.Understood.ok_iff {request : Http.Request} {response : Http.Response}
    {result : Except Fault Fields} (understood : Understood request response result)
    (fields : Fields) :
    result = .ok fields ↔ request.url.hasType = true ∧ response.Answers fields := by
  cases understood with
  | answer typed answers =>
      constructor
      · rintro ⟨⟩
        exact ⟨typed, answers⟩
      · rintro ⟨_, same⟩
        rw [answers.unique same]
  | refused fault silent shallow typed =>
      constructor
      · rintro ⟨⟩
      · rintro ⟨_, answers⟩
        exact absurd answers (silent fields)
  | tooDeep typed deep =>
      constructor
      · rintro ⟨⟩
      · rintro ⟨_, answers⟩
        exact absurd deep (answers.not_isTooDeep _)
  | noType status body untyped =>
      constructor
      · rintro ⟨⟩
      · rintro ⟨typed, _⟩
        rw [typed] at untyped
        cases untyped

/-! ## What is taken from an answer -/

def Method.verb : Method → Http.Verb
  | on .. => .post
  | balances => .get

def Call.body (call : Call) : Option Json :=
  match call.method with
  | .on .. => some call.payload
  | .balances => none

def Method.content : Method → Fields → Json
  | on .., fields => .obj fields
  | balances, fields => Gateway.listed fields

/-- What the fields of an answer are taken for. -/
def Method.take (method : Method) (fields : Fields) : Except Fault Yield :=
  method.read (method.content fields)

theorem Errand.method_eq {errand : Errand} {user : String} {call : Call}
    (written : errand.toCall user = .ok call) : call.method = errand.method := by
  cases errand with
  | make purpose request =>
      obtain ⟨payload, _, rfl⟩ := Except.map_eq_ok written
      rfl
  | balances =>
      cases written
      rfl

theorem Act.runIn_bind_ofExcept {σ α β : Type} {act : Act σ α} {world after : World σ}
    {result : Except Fault α} (ran : act.runIn world = (result, after)) (read : α → Except Fault β) :
    (act >>= fun value => Act.ofExcept (read value)).runIn world = (result.bind read, after) := by
  cases result with
  | error fault => exact Act.runIn_bind_error ran _
  | ok value =>
      rw [Act.runIn_bind_ok ran]
      exact Act.runIn_ofExcept _ _

theorem Engine.runIn_carryOut {σ : Type} {engine : Engine σ} {backend : Backend σ}
    (connected : engine.backend = some backend) (errand : Errand) (world : World σ) :
    (engine.carryOut errand).runIn world =
      match errand.toCall ((backend.user world.backend).getD "") with
      | .error fault => (.error fault, world)
      | .ok call => ((backend.answer call world.backend).1.answer.bind errand.method.read,
          answeredBy backend call world) := by
  cases errand with
  | balances => exact Act.runIn_bind_ofExcept (engine.runIn_send connected _ world) _
  | make purpose request =>
      have asked : (engine.ask purpose request).runIn world =
          match request.toCall purpose ((backend.user world.backend).getD "") with
          | .error fault => (.error fault, world)
          | .ok call => (engine.send call).runIn world := by
        simp only [ask, Act.runIn, connected, Option.bind_some]
        cases request.toCall purpose ((backend.user world.backend).getD "") <;> rfl
      simp only [Errand.toCall]
      cases written : request.toCall purpose ((backend.user world.backend).getD "") with
      | error fault =>
          rw [written] at asked
          exact Act.runIn_bind_ofExcept asked _
      | ok call =>
          rw [written] at asked
          exact Act.runIn_bind_ofExcept (asked.trans (engine.runIn_send connected call world)) _

namespace Gateway

theorem answer_eq (gateway : Gateway σ) (call : Call) (client : Client σ) :
    gateway.answer call client =
      let (answer, elapsed, client) :=
        gateway.ask call.method.verb call.method.path call.body client
      (⟨answer.map call.method.content, elapsed⟩, client) := by
  obtain ⟨_ | _, payload⟩ := call <;> rfl

theorem answer_of_open {client : Client σ} {id : Json} (isOpen : client.session = some id)
    (call : Call) :
    let submitted := gateway.submit call.method.verb call.method.path call.body (some id) client
    gateway.answer call client =
      (⟨submitted.1.map call.method.content, submitted.2.1⟩, submitted.2.2) := by
  rw [answer_eq]
  simp only [ask, isOpen]

/-- The world once a request has been submitted. -/
def afterwards (world : World (Client σ)) (submitted : Except Fault Fields × Int × Client σ) :
    World (Client σ) :=
  { world.advance submitted.2.1 with backend := submitted.2.2 }

theorem runIn_carryOut (connected : engine.backend = some gateway.backend) {id : Json}
    (isOpen : world.backend.session = some id) {errand : Errand} {call : Call}
    (written : errand.toCall (world.backend.user.getD "") = .ok call) :
    let submitted := gateway.submit call.method.verb call.method.path call.body (some id) world.backend
    (engine.carryOut errand).runIn world =
      (submitted.1.bind errand.method.take, afterwards (world.log (.sent call)) submitted) := by
  intro submitted
  have answered : gateway.answer call world.backend =
      (⟨submitted.1.map call.method.content, submitted.2.1⟩, submitted.2.2) :=
    answer_of_open isOpen call
  rw [Engine.runIn_carryOut connected]
  simp only [backend, written, Engine.answeredBy, answered, ← Errand.method_eq written]
  cases submitted.1 <;> rfl

theorem runIn_openSession (gateway : Gateway σ) (user : String) (world : World (Client σ)) :
    let submitted :=
      gateway.submit .post sessionsPath (some (gateway.introduction user)) none world.backend
    (gateway.openSession user).runIn world =
      match submitted.1.bind sessionOf with
      | .ok id => (.ok (), { afterwards world submitted with
          backend := { submitted.2.2 with session := some id, user := some user } })
      | .error fault => (.error fault, afterwards world submitted) := by
  simp only [openSession, Act.runIn]
  rcases gateway.submit .post sessionsPath (some (gateway.introduction user)) none world.backend with
    ⟨answer, elapsed, client⟩
  dsimp only
  cases answer.bind sessionOf <;> rfl

/-! ## What surfaces -/

/-- What becomes of a request from which a value is to be taken: the value, if there is an answer and
the value can be taken from it; a fault that is none of the gateway, if the request cannot be made or
the response is garbled; otherwise a failure of the gateway. -/
structure Surfaces {α : Type} (gateway : Gateway σ) (verb : Http.Verb) (path : String)
    (body session : Option Json) (transport : σ) (take : Fields → Except Fault α)
    (result : Except Fault α) : Prop where
  yields : ∀ value, result = .ok value ↔ ∃ request fields,
    gateway.composed verb path body session = .ok request ∧ request.url.hasType = true ∧
      (gateway.transport request transport).1.response.Answers fields ∧ take fields = .ok value
  escapes : Escapes result ↔ gateway.Hindered path body session ∨ ∃ request,
    gateway.composed verb path body session = .ok request ∧
      Garbles take request (gateway.transport request transport).1.response

theorem Submission.surfaces {α : Type} {verb : Http.Verb} {path : String}
    {body session : Option Json} {client : Client σ} {submitted : Except Fault Fields × Int × Client σ}
    (submission : gateway.Submission verb path body session client submitted)
    (take : Fields → Except Fault α) :
    gateway.Surfaces verb path body session client.transport take (submitted.1.bind take) := by
  cases submission with
  | unsent unmade settled =>
      constructor
      · intro value
        constructor
        · rintro ⟨⟩
        · rintro ⟨request, _, made, _⟩
          rw [made] at unmade
          cases unmade
      · refine ⟨fun _ => .inl (hindered_iff.mpr ⟨_, unmade⟩), ?_⟩
        rintro -
        exact ⟨_, rfl, composed_error unmade⟩
  | @sent request exchange transport connection made carried settled =>
      have received : (gateway.transport request client.transport).1.response = exchange.response := by
        rw [carried]
      have understood := understood_spec verb path request exchange.response
      constructor
      · intro value
        constructor
        · intro taken
          obtain ⟨fields, answered, taken⟩ := Except.bind_eq_ok taken
          obtain ⟨typed, answers⟩ := (understood.ok_iff fields).mp answered
          exact ⟨request, fields, made, typed, received ▸ answers, taken⟩
        · rintro ⟨again, fields, remade, typed, answers, taken⟩
          rw [made] at remade
          cases remade
          rw [received] at answers
          rw [(understood.ok_iff fields).mpr ⟨typed, answers⟩]
          exact taken
      · rw [understood.escapes_iff]
        constructor
        · intro garbled
          exact .inr ⟨request, made, received ▸ garbled⟩
        · rintro (hindered | ⟨again, remade, garbled⟩)
          · exact absurd hindered (not_hindered made)
          · rw [made] at remade
            cases remade
            exact received ▸ garbled

/-- What is taken from the answer when a session is opened. -/
def established (fields : Fields) : Except Fault Unit := (sessionOf fields).map fun _ => ()

theorem runIn_openSession_fst (gateway : Gateway σ) (user : String) (world : World (Client σ)) :
    ((gateway.openSession user).runIn world).1 =
      (gateway.submit .post sessionsPath (some (gateway.introduction user)) none
        world.backend).1.bind established := by
  rw [runIn_openSession]
  cases (gateway.submit .post sessionsPath (some (gateway.introduction user)) none world.backend).1 with
  | error fault => rfl
  | ok fields =>
      simp only [Except.bind, established]
      cases sessionOf fields <;> rfl

theorem health_error_iff (settled : gateway.Settled world.backend) :
    (∃ fault, (gateway.health.runIn world).1 = .error fault) ↔
      gateway.Hindered healthPath none none ∨ ∃ request status text,
        gateway.composed .get healthPath none none = .ok request ∧ request.url.hasType = false ∧
        (gateway.transport request world.backend.transport).1.response =
          .answered status text := by
  have checked := checkup settled
  revert checked
  generalize gateway.health.runIn world = checked
  rintro (⟨unmade, _⟩ | @⟨request, exchange, _, _, made, carried, _⟩)
  · refine ⟨fun _ => .inl (hindered_iff.mpr ⟨_, unmade⟩), ?_⟩
    rintro -
    exact ⟨_, rfl⟩
  · simp only [not_hindered made, false_or, made, Except.ok.injEq, exists_and_left, exists_eq_left', carried]
    cases exchange.response with
    | unreachable reason => simp [diagnosed]
    | answered status text =>
        simp only [diagnosed]
        cases request.url.hasType <;> simp

/-- Nothing that a gateway answers, or leaves unanswered, gives a fault that is none of the gateway
unless it is garbled, whatever is asked of the gateway in a session. -/
theorem requests_surface (connected : engine.backend = some gateway.backend)
    (settled : gateway.Settled world.backend) {id : Json} (isOpen : world.backend.session = some id) :
    (∀ errand call, errand.toCall (world.backend.user.getD "") = .ok call →
      gateway.Surfaces call.method.verb call.method.path call.body (some id)
        world.backend.transport errand.method.take ((engine.carryOut errand).runIn world).1) ∧
    (∀ user, gateway.Surfaces .post sessionsPath (some (gateway.introduction user)) none
      world.backend.transport established ((gateway.openSession user).runIn world).1) ∧
    ((∃ fault, (gateway.health.runIn world).1 = .error fault) ↔
      gateway.Hindered healthPath none none ∨ ∃ request status text,
        gateway.composed .get healthPath none none = .ok request ∧ request.url.hasType = false ∧
        (gateway.transport request world.backend.transport).1.response = .answered status text) := by
  refine ⟨?_, ?_, ?_⟩
  · intro errand call written
    rw [runIn_carryOut connected isOpen written]
    exact (submission settled _ _ _ _).surfaces _
  · intro user
    rw [runIn_openSession_fst]
    exact (submission settled _ _ _ _).surfaces _
  · exact health_error_iff settled

/-! ## An object that is no receipt -/

/-- The bridge of `bridge_misfit`, with the gateway and the session that it is made in. -/
def misfitting : Gateway Unit := Sample.gateway 200 "\x7b\"success\": \"maybe\"\x7d"

def misfitted : Errand := .make .perform (.bridge "USDC" "5" 11155111)

theorem bridge_misfit : Escapes
    (((Sample.engineOf misfitting).carryOut misfitted).runIn (Sample.inSession "0xuser")).1 := by
  decide +kernel

theorem requests_surface_misfit :
    (Sample.engineOf misfitting).backend = some misfitting.backend ∧
      misfitting.Settled (Sample.inSession "0xuser").backend ∧
      (Sample.inSession "0xuser").backend.session = some (.str "s") ∧
      ∀ call, misfitted.toCall "0xuser" = .ok call →
        misfitting.Hindered call.method.path call.body (some (.str "s")) ∨ ∃ request,
          misfitting.composed call.method.verb call.method.path call.body (some (.str "s")) =
            .ok request ∧
          Garbles misfitted.method.take request
            (misfitting.transport request ()).1.response := by
  have connected : (Sample.engineOf misfitting).backend = some misfitting.backend := rfl
  have settled : misfitting.Settled (Sample.inSession "0xuser").backend := by
    rintro connection ⟨⟩
  refine ⟨connected, settled, rfl, ?_⟩
  intro call written
  have surfaces := (requests_surface connected settled rfl).1 misfitted call written
  exact surfaces.escapes.mp (by decide +kernel)

end Gateway

end ChainFlow
