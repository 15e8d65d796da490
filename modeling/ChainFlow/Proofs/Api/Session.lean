import ChainFlow.Api.Service
import ChainFlow.Proofs.Gateway.Conversation
import ChainFlow.Proofs.Json.Encodable
import ChainFlow.Proofs.Sample

/-!
# The session of the service

The service answers that a session is open exactly if the gateway has opened one; otherwise it shows
the session that was there before (`admits`). With what is known of conversations this says what a
provider of sessions does in all (`session_kept`). A response that is nested too deep is no failure of
the gateway to it (`session_too_deep`).
-/

namespace ChainFlow

variable {σ : Type}

/-! ## What can be said in an answer -/

/-- A response whose text, or whose reason, holds no half of a pair. -/
def Http.Response.IsWhole : Http.Response → Prop
  | answered _ body => Text.hasLone body = false
  | unreachable reason => Text.hasLone reason = false

/-- A failure whose texts hold none. -/
def GatewayFault.IsWhole : GatewayFault → Prop
  | unreachable reason => Text.hasLone reason = false
  | refused method path body _ =>
    Text.hasLone method = false ∧ Text.hasLone path = false ∧ Text.hasLone body = false
  | notJson path _ | notObject path _ => Text.hasLone path = false
  | noSession => True

theorem hasLone_append (first second : String) :
    Text.hasLone (first ++ second) = (Text.hasLone first || Text.hasLone second) := by
  simp [Text.hasLone]

theorem hasLone_shown (value : Json) : Text.hasLone value.shown = false := by
  rw [← Text.sendable_iff, Json.shown, String.toList_ofList]
  exact Json.sendable_literal value

theorem GatewayFault.IsWhole.message {fault : GatewayFault} (whole : fault.IsWhole) :
    Text.hasLone fault.message = false := by
  cases fault with
  | unreachable reason =>
      have words : Text.hasLone "Request failed: " = false := by decide
      change Text.hasLone ("Request failed: " ++ reason) = false
      rw [hasLone_append, words, whole]
      rfl
  | refused method path body status =>
      obtain ⟨method_whole, path_whole, body_whole⟩ := whole
      have space : Text.hasLone " " = false := by decide
      have words : Text.hasLone " failed: " = false := by decide
      change Text.hasLone (method ++ " " ++ path ++ " failed: " ++ body) = false
      simp only [hasLone_append, method_whole, space, path_whole, words, body_whole, Bool.or_false]
  | notJson path status =>
      have words : Text.hasLone "Invalid JSON from " = false := by decide
      change Text.hasLone ("Invalid JSON from " ++ path) = false
      rw [hasLone_append, words, whole]
      rfl
  | notObject path answer =>
      have words : Text.hasLone "Unexpected response from " = false := by decide
      have colon : Text.hasLone ": " = false := by decide
      change Text.hasLone ("Unexpected response from " ++ path ++ ": " ++ answer.shown) = false
      have path_whole : Text.hasLone path = false := whole
      simp only [hasLone_append, words, path_whole, colon, hasLone_shown, Bool.or_false]
  | noSession => decide

namespace Gateway

variable {gateway : Gateway σ}

/-- A user for whom a session can be asked for can be named in an answer. -/
theorem hasLone_of_checkBody {user : String}
    (checked : checkBody (gateway.introduction user) = .ok ()) : Text.hasLone user = false := by
  have sent : Text.unencodable? (fun _ => false) (gateway.introduction user).sent = none := by
    unfold checkBody at checked
    dsimp only at checked
    split at checked
    · cases checked
    · split at checked
      · cases checked
      · next whole => exact whole
  have whole := Text.sendable_of_go sent
  simp only [introduction, Json.sent, Json.compactText, Json.compactFields, Text.separated_cons_cons,
    Text.sendable_append, Text.sendable_cons] at whole
  obtain ⟨⟨_, ⟨_, _, written⟩, _⟩, _⟩ := whole
  rw [← Text.sendable_iff]
  exact Json.sendable_of_stringText written

theorem isWhole_of_decode {verb : Http.Verb} {path : String} {status : Int} {body : String}
    {fault : GatewayFault} (path_whole : Text.hasLone path = false)
    (body_whole : Text.hasLone body = false)
    (told : decode verb path (.answered status body) = .error (.gateway fault)) : fault.IsWhole := by
  have verb_whole : Text.hasLone verb.word = false := by cases verb <;> decide
  unfold decode at told
  dsimp only at told
  split at told
  · split at told
    · cases told
    · cases told
      exact path_whole
    · cases told
    · cases told
      exact path_whole
  · cases told
    exact ⟨verb_whole, path_whole, body_whole⟩

/-- What a gateway failed with when a session was asked for can be told in an answer. -/
theorem isWhole_of_understood {verb : Http.Verb} {path : String} {request : Http.Request}
    {response : Http.Response} {fault : GatewayFault} (path_whole : Text.hasLone path = false)
    (whole : response.IsWhole)
    (told : understood verb path request response = .error (.gateway fault)) : fault.IsWhole := by
  cases response with
  | unreachable reason =>
      cases told
      exact whole
  | answered status body =>
      unfold understood at told
      dsimp only at told
      split at told
      · exact isWhole_of_decode path_whole whole told
      · cases told

theorem not_opens_of_garbles {request : Http.Request} {response : Http.Response} {id : Json}
    (garbled : Garbles established request response) (typed : request.url.hasType = true) :
    ¬ response.Opens id := by
  rintro ⟨fields, answers, named⟩
  have opens : response.Opens id := ⟨fields, answers, named⟩
  have ofFields := (opens_iff answers id).mp opens
  cases garbled with
  | tooDeep container deep => exact answers.not_isTooDeep container deep
  | misfit again escapes =>
      cases answers.unique again
      obtain ⟨fault, failed, _⟩ := escapes
      rw [established, ofFields] at failed
      cases failed
  | noType status body untyped =>
      rw [typed] at untyped
      cases untyped

end Gateway

namespace Api.Service

variable {service : Service σ} {state : State σ} {user : String}

theorem answer_of_route {verb path : String} {endpoint : Endpoint}
    (leads : route verb path = .endpoint endpoint) (body : Body) :
    service.answer verb path body state = service.atEndpoint endpoint body state := by
  delta answer
  rw [leads]

theorem answer_sessionStatus (body : Body) : service.answer "GET" "/session" body state =
    (.json 200 (session state.world.backend), state) := by
  have leads : route "GET" "/session" = .endpoint .sessionStatus := by decide +kernel
  exact answer_of_route leads body

theorem answer_openSession (body : Body) : service.answer "POST" "/session" body state =
    withBody body readUser service.openSession state := by
  have leads : route "POST" "/session" = .endpoint .openSession := by decide +kernel
  exact answer_of_route leads body

/-! ## Opening a session -/

/-- Why no session is open after one was asked for: it could not be asked for, the response is
garbled, or the gateway failed, which the answer says. -/
def Fails (service : Service σ) (user : String) (state : State σ) (answer : Answer) : Prop :=
  service.gateway.Hindered Gateway.sessionsPath (some (service.gateway.introduction user)) none ∨
  ∃ request, service.gateway.composed .post Gateway.sessionsPath
      (some (service.gateway.introduction user)) none = .ok request ∧
    let response := (service.gateway.transport request state.world.backend.transport).1.response
    Garbles Gateway.established request response ∨ (response.IsWhole → answer.status = 502)

/-- What the service answers when a session is asked for, and the state afterwards. -/
structure Admits (service : Service σ) (user : String) (state : State σ) (answer : Answer)
    (after : State σ) : Prop where
  granted : answer.status = 200 ↔ ∃ request id,
    service.gateway.composed .post Gateway.sessionsPath (some (service.gateway.introduction user))
      none = .ok request ∧ request.url.hasType = true ∧
    (service.gateway.transport request state.world.backend.transport).1.response.Opens id
  shown : answer.status = 200 → answer = (service.answer "GET" "/session" .none after).1 ∧
    answer = .json 200 (.obj [("initialized", .bool true), ("userAddress", .str user)])
  kept : answer.status ≠ 200 → (service.answer "GET" "/session" .none after).1 =
    (service.answer "GET" "/session" .none state).1
  failed : answer.status ≠ 200 → service.Fails user state answer

theorem openSession_opened {world : World (Client σ)}
    (ran : (service.gateway.openSession user).runIn state.world = (.ok (), world)) :
    service.openSession user state = (.json 200 (session world.backend), { state with world }) := by
  simp only [openSession, ran]

theorem openSession_failed {fault : GatewayFault} {world : World (Client σ)}
    (ran : (service.gateway.openSession user).runIn state.world = (.error (.gateway fault), world)) :
    service.openSession user state =
      (.detail 502 (.str fault.message), { state with world }) := by
  simp only [openSession, ran]

theorem openSession_escaped {fault : Fault} {world : World (Client σ)}
    (ran : (service.gateway.openSession user).runIn state.world = (.error fault, world))
    (escapes : ¬ fault.IsOfGateway) :
    service.openSession user state = (.internalError, { state with world }) := by
  simp only [openSession, ran]
  split
  · next same => cases same
  · next cause same =>
    cases same
    exact absurd ⟨cause, rfl⟩ escapes
  · rfl

theorem status_detail (status : Nat) (message : String) :
    (Answer.detail status (.str message)).status = if Text.hasLone message then 500 else status := by
  have name : Text.hasLone "detail" = false := by decide
  cases lone : Text.hasLone message <;>
    simp [Answer.detail, Answer.json, Answer.internalError, Json.isEncodable, Json.fieldsEncodable,
      name, lone]

theorem status_session (client : Client σ) (user_eq : client.user = some user)
    (whole : Text.hasLone user = false) : (Answer.json 200 (session client)).status = 200 := by
  have names : Text.hasLone "initialized" = false ∧ Text.hasLone "userAddress" = false := by decide
  simp [session, user_eq, Answer.json, Json.isEncodable, Json.fieldsEncodable, Json.ofString?,
    Json.ofOption, names, whole]

/-- An answer that does not say that the session is open, where none was opened. -/
theorem admits_of_refused {answer : Answer} {after : State σ} (refused : answer.status ≠ 200)
    (same : session after.world.backend = session state.world.backend)
    (unopened : ∀ request, service.gateway.composed .post Gateway.sessionsPath
        (some (service.gateway.introduction user)) none = .ok request →
      request.url.hasType = true → ∀ id,
      ¬ (service.gateway.transport request state.world.backend.transport).1.response.Opens id)
    (failed : service.Fails user state answer) :
    service.Admits user state answer after where
  granted := by
    refine iff_of_false refused ?_
    rintro ⟨request, id, made, typed, opens⟩
    exact unopened request made typed id opens
  shown granted := absurd granted refused
  kept _ := by
    rw [answer_sessionStatus, answer_sessionStatus]
    exact congrArg (Answer.json 200) same
  failed _ := failed

theorem admits {body : Body} (asked : body.read readUser = .ok user)
    (settled : service.gateway.Settled state.world.backend) :
    service.Admits user state (service.answer "POST" "/session" body state).1
      (service.answer "POST" "/session" body state).2 := by
  have internal : Answer.internalError.status ≠ 200 := by decide
  have admitted := Gateway.admission settled user
  rw [answer_openSession]
  simp only [withBody, asked]
  generalize ran : (service.gateway.openSession user).runIn state.world = out at admitted
  cases admitted with
  | unasked unmade settled =>
      rw [openSession_escaped ran (Gateway.composed_error unmade)]
      refine admits_of_refused internal rfl ?_ (.inl (Gateway.hindered_iff.mpr ⟨_, unmade⟩))
      intro request made
      rw [unmade] at made
      cases made
  | @opened id request exchange transport connection made carried settled typed opens =>
      obtain ⟨_, _, checked, _, _⟩ := Gateway.checked_of_composed made
      have granted := status_session ⟨some id, some user, connection, transport⟩ rfl
        (Gateway.hasLone_of_checkBody checked)
      rw [openSession_opened ran]
      constructor
      · refine iff_of_true granted ⟨request, id, made, typed, ?_⟩
        rw [carried]
        exact opens
      · intro _
        rw [answer_sessionStatus]
        exact ⟨rfl, rfl⟩
      · exact absurd granted
      · exact absurd granted
  | @failed fault request exchange transport connection made carried settled other shallow told =>
      rw [openSession_failed ran]
      refine admits_of_refused ?_ rfl ?_ (.inr ⟨request, made, .inr ?_⟩)
      · rw [status_detail]
        split <;> decide
      · intro again remade _
        rw [made] at remade
        cases remade
        rw [carried]
        exact other
      · rw [carried]
        intro whole
        have message : Text.hasLone fault.message = false := by
          rcases told with rfl | told
          · decide
          · exact (Gateway.isWhole_of_understood (by decide) whole told).message
        rw [status_detail, message]
        rfl
  | @garbled fault request exchange transport connection made carried settled garbled escapes =>
      rw [openSession_escaped ran escapes]
      refine admits_of_refused internal rfl ?_ (.inr ⟨request, made, .inl ?_⟩)
      · intro again remade typed id
        rw [made] at remade
        cases remade
        rw [carried]
        exact Gateway.not_opens_of_garbles garbled typed
      · rw [carried]
        exact garbled

/-- A provider of sessions: in every conversation that begins with a stranger the turns are proper,
and whenever the service is asked for a session then, it opens one exactly if the gateway does. -/
theorem session_kept {gateway : Gateway σ} {engine : Engine (Client (σ × List Remark))}
    (connected : engine.backend = some gateway.recorded.backend) (clock : Int) (start : σ)
    (deeds : List Deed) (delay : Int) (rate : Binary64) (store : TemplateStore) :
    let service : Service (σ × List Remark) := ⟨gateway.recorded, engine, delay, rate⟩
    let out := gateway.recorded.converse engine deeds
      (World.fresh clock (Gateway.stranger (start, [])))
    (∃ held, gateway.recorded.Course none out.1 held ∧ out.2.backend.Holds held) ∧
    out.2.said = out.1.flatMap (·.said) ∧
    ∀ body : Body,
      let posted := service.answer "POST" "/session" body ⟨out.2, store⟩
      match body.read readUser with
      | .ok user => service.Admits user ⟨out.2, store⟩ posted.1 posted.2
      | .error refusal => posted = (.refused refusal, ⟨out.2, store⟩) := by
  have settled : gateway.recorded.Settled
      (World.fresh clock (Gateway.stranger (start, ([] : List Remark)))).backend :=
    Gateway.settled_stranger _ _
  have holds : (World.fresh clock (Gateway.stranger (start, ([] : List Remark)))).backend.Holds none :=
    ⟨rfl, rfl⟩
  obtain ⟨held, course, holds, settled, said⟩ :=
    Gateway.course_converse connected settled holds deeds
  refine ⟨⟨held, course, holds⟩, said, ?_⟩
  intro body
  cases asked : body.read readUser with
  | ok user => exact admits asked settled
  | error refusal =>
      dsimp only
      rw [answer_openSession]
      simp only [withBody, asked]

/-- A gateway that opens a session for everyone. -/
def welcoming : Gateway Unit := Sample.gateway 201 "\x7b\"sessionId\": \"s\"\x7d"

theorem session_kept_welcoming :
    (Sample.engineOf welcoming.recorded).backend = some welcoming.recorded.backend ∧
      ∃ held, welcoming.recorded.Course none
          (welcoming.recorded.converse (Sample.engineOf welcoming.recorded)
            [.opens "0xA", .runs .balances, .closes, .checks]
            (World.fresh 0 (Gateway.stranger ((), [])))).1 held ∧
        held.map (·.user) = some "0xA" := by
  have connected :
      (Sample.engineOf welcoming.recorded).backend = some welcoming.recorded.backend := rfl
  obtain ⟨⟨held, course, holds⟩, _⟩ := session_kept connected 0 ()
    [.opens "0xA", .runs .balances, .closes, .checks] 0 (.zero false) .empty
  refine ⟨connected, held, course, ?_⟩
  rw [← holds.2]
  decide +kernel

/-- A response that is nested too deep is no failure of the gateway to the service. -/
theorem status_of_isTooDeep {body : Body} (asked : body.read readUser = .ok user)
    (settled : service.gateway.Settled state.world.backend)
    (deep : ∀ request, ∃ container,
      (service.gateway.transport request state.world.backend.transport).1.response.IsTooDeep
        container) :
    (service.answer "POST" "/session" body state).1.status = 500 := by
  have admitted := Gateway.admission settled user
  rw [answer_openSession]
  simp only [withBody, asked]
  generalize ran : (service.gateway.openSession user).runIn state.world = out at admitted
  cases admitted with
  | unasked unmade settled =>
      rw [openSession_escaped ran (Gateway.composed_error unmade)]
      rfl
  | @opened id request exchange transport connection made carried settled typed opens =>
      obtain ⟨container, deep⟩ := deep request
      obtain ⟨fields, answers, _⟩ := opens
      rw [carried] at deep
      exact absurd deep (answers.not_isTooDeep container)
  | @failed fault request exchange transport connection made carried settled other shallow told =>
      obtain ⟨container, deep⟩ := deep request
      rw [carried] at deep
      exact absurd deep (shallow container)
  | garbled made carried settled garbled escapes =>
      rw [openSession_escaped ran escapes]
      rfl

/-- A service of which the gateway answers with a thousand lists that it opens and never closes. -/
def entangled : Service Unit :=
  let gateway := Sample.gateway 200 (String.ofList (List.replicate 1000 '['))
  ⟨gateway, Sample.engineOf gateway, 0, .zero false⟩

theorem session_too_deep :
    (entangled.answer "POST" "/session" (.raw "\x7b\"userAddress\": \"0xA\"\x7d")
      ⟨World.fresh 0 (Gateway.stranger ()), .empty⟩).1.status = 500 := by
  have named : (Body.read (.raw "\x7b\"userAddress\": \"0xA\"\x7d") readUser).toOption =
      some "0xA" := by
    decide +kernel
  have nested : Json.tooDeep? (Json.parseBytes (List.replicate 1000 '[')) = some .array := by
    decide +kernel
  cases asked : Body.read (.raw "\x7b\"userAddress\": \"0xA\"\x7d") readUser with
  | error refusal =>
      rw [asked] at named
      cases named
  | ok user =>
      refine status_of_isTooDeep asked (Gateway.settled_stranger _ ()) ?_
      intro request
      refine ⟨.array, Http.Response.isTooDeep_of_tooDeep? (.inl rfl) ?_⟩
      rw [String.toList_ofList]
      exact nested

end Api.Service

end ChainFlow
