import ChainFlow.Gateway.Session
import ChainFlow.Proofs.Result

/-!
# What a gateway is sent

A request is made from the configuration of the gateway and from what is asked, whether there is a
connection already or not (`prepare_eq`). So a request that is submitted either cannot be made and is
not sent, or it is sent once (`submission`); a response is an object, a failure of the gateway, a text that
is nested too deep, or one from an address that names no type (`Understood`).
-/

namespace ChainFlow

variable {σ : Type} {gateway : Gateway σ} {client : Client σ}

namespace Fault

def gateway? : Fault → Option GatewayFault
  | .gateway cause => some cause
  | _ => none

def IsOfGateway (fault : Fault) : Prop := ∃ cause, fault = .gateway cause

instance (fault : Fault) : Decidable fault.IsOfGateway :=
  decidable_of_iff (fault.gateway?.isSome = true) (by cases fault <;> simp [gateway?, IsOfGateway])

end Fault

namespace Gateway

/-! ## Connections -/

/-- The connection of a client is the one that the configuration gives. -/
def Settled (gateway : Gateway σ) (client : Client σ) : Prop :=
  ∀ connection, client.connection = some connection → gateway.connection = .ok connection

theorem settled_stranger (gateway : Gateway σ) (transport : σ) :
    gateway.Settled (stranger transport) := by
  intro connection made
  cases made

def address (gateway : Gateway σ) (path : String) : Except Fault Http.Url :=
  gateway.connection.bind fun connection => ofUrl (connection.base.below path.toList)

def composed (gateway : Gateway σ) (verb : Http.Verb) (path : String) (body session : Option Json) :
    Except Fault Http.Request :=
  gateway.connection.bind (compose · verb path body session)

theorem prepare_eq (settled : gateway.Settled client) (verb : Http.Verb) (path : String)
    (body session : Option Json) : ∃ connection,
      gateway.prepare verb path body session client =
        (gateway.composed verb path body session, { client with connection }) ∧
      gateway.Settled { client with connection } := by
  obtain ⟨id, user, _ | there, transport⟩ := client
  · cases made : gateway.connection with
    | error fault =>
        refine ⟨none, ?_, settled⟩
        simp only [prepare, connect, composed, made]
        rfl
    | ok connection =>
        refine ⟨some connection, ?_, ?_⟩
        · simp only [prepare, connect, composed, made]
          rfl
        · rintro other ⟨⟩
          exact made
  · refine ⟨some there, ?_, settled⟩
    simp only [prepare, connect, composed, settled there rfl]
    rfl

/-! ## Requests -/

structure Sends (gateway : Gateway σ) (verb : Http.Verb) (path : String) (body : Option Json)
    (session : Option String) (request : Http.Request) : Prop where
  verb_eq : request.verb = verb
  url_eq : gateway.address path = .ok request.url
  body_eq : request.body = body
  session_eq : request.session = session

theorem header_eq_ok {value : Json} {text : String} (written : header value = .ok text) :
    value = .str text := by
  unfold header at written
  split at written
  · split at written
    · cases written
      rfl
    · cases written
  · cases written

theorem checked_of_composed {verb : Http.Verb} {path : String} {body session : Option Json}
    {request : Http.Request} (made : gateway.composed verb path body session = .ok request) :
    ∃ text, session.mapM header = .ok text ∧ body.forM checkBody = .ok () ∧
      checkHost request.url = .ok () ∧ gateway.Sends verb path body text request := by
  unfold composed at made
  obtain ⟨connection, connected, made⟩ := Except.bind_eq_ok made
  obtain ⟨url, found, made⟩ := Except.bind_eq_ok made
  obtain ⟨text, written, made⟩ := Except.bind_eq_ok made
  obtain ⟨_, checked, made⟩ := Except.bind_eq_ok made
  obtain ⟨_, named, made⟩ := Except.bind_eq_ok made
  cases made
  refine ⟨text, written, checked, named, rfl, ?_, rfl, rfl⟩
  rw [address, connected]
  exact found

theorem composed_ok {connection : Connection} {verb : Http.Verb} {path : String}
    {body session : Option Json} {url : Http.Url} {text : Option String}
    (connected : gateway.connection = .ok connection)
    (below : ofUrl (connection.base.below path.toList) = .ok url)
    (written : session.mapM header = .ok text) (checked : body.forM checkBody = .ok ())
    (named : checkHost url = .ok ()) :
    gateway.composed verb path body session =
      .ok ⟨verb, url, body, text, connection.apiKey⟩ := by
  rw [composed, connected]
  show compose connection verb path body session = _
  unfold compose
  rw [below]
  show (session.mapM header >>= _) = _
  rw [written]
  show (body.forM checkBody >>= _) = _
  rw [checked]
  show (checkHost url >>= _) = _
  rw [named]
  rfl

theorem sends_of_composed {verb : Http.Verb} {path : String} {body : Option Json}
    {request : Http.Request} (made : gateway.composed verb path body none = .ok request) :
    gateway.Sends verb path body none request := by
  obtain ⟨text, written, _, _, sends⟩ := checked_of_composed made
  cases written
  exact sends

theorem sends_of_composed_some {verb : Http.Verb} {path : String} {body : Option Json} {id : Json}
    {request : Http.Request} (made : gateway.composed verb path body (some id) = .ok request) :
    ∃ text, id = .str text ∧ gateway.Sends verb path body (some text) request := by
  obtain ⟨text, written, _, _, sends⟩ := checked_of_composed made
  obtain ⟨own, isHeader, same⟩ := Except.map_eq_ok written
  cases same
  exact ⟨own, header_eq_ok isHeader, sends⟩

/-! ## Requests that cannot be made -/

theorem header_error {value : Json} {fault : Fault} (unwritten : header value = .error fault) :
    ¬ fault.IsOfGateway := by
  unfold header at unwritten
  rintro ⟨cause, rfl⟩
  split at unwritten
  · split at unwritten <;> cases unwritten
  · cases unwritten

theorem checkBody_error {body : Json} {fault : Fault} (unsendable : checkBody body = .error fault) :
    ¬ fault.IsOfGateway := by
  unfold checkBody at unsendable
  rintro ⟨cause, rfl⟩
  dsimp only at unsendable
  split at unsendable
  · cases unsendable
  · split at unsendable <;> cases unsendable

theorem checkHost_error {url : Http.Url} {fault : Fault} (unnamed : checkHost url = .error fault) :
    ¬ fault.IsOfGateway := by
  have located : ∀ next : String → Except Fault Unit, (∀ text, next text = .ok ()) →
      (header (.str (String.ofList url.location)) >>= next) = .error fault → ¬ fault.IsOfGateway := by
    intro next done failed
    rcases Except.bind_eq_error failed with unwritten | ⟨text, _, failed⟩
    · exact header_error unwritten
    · rw [done text] at failed
      cases failed
  unfold checkHost at unnamed
  dsimp only at unnamed
  split at unnamed
  · rcases Except.bind_eq_error unnamed with undecoded | ⟨_, _, unwritten⟩
    · rintro ⟨cause, rfl⟩
      cases decoded : DomainName.decode url.host <;> rw [decoded] at undecoded <;> cases undecoded
    · exact located _ (fun _ => rfl) unwritten
  · exact located _ (fun _ => rfl) unnamed

theorem ofUrl_error {α : Type} {result : Except Http.UrlDefect α} {fault : Fault}
    (nowhere : ofUrl result = .error fault) : ¬ fault.IsOfGateway := by
  unfold ofUrl at nowhere
  rintro ⟨cause, rfl⟩
  split at nowhere <;> cases nowhere

theorem connection_error {fault : Fault} (unmade : gateway.connection = .error fault) :
    ¬ fault.IsOfGateway := by
  unfold connection at unmade
  rcases Except.bind_eq_error unmade with nowhere | ⟨_, _, unmade⟩
  · exact ofUrl_error nowhere
  · rcases Except.bind_eq_error unmade with unwritten | ⟨_, _, ⟨⟩⟩
    unfold keyHeader at unwritten
    split at unwritten
    · cases unwritten
    · exact header_error (Except.map_eq_error unwritten)

theorem composed_error {verb : Http.Verb} {path : String} {body session : Option Json} {fault : Fault}
    (unmade : gateway.composed verb path body session = .error fault) : ¬ fault.IsOfGateway := by
  unfold composed at unmade
  rcases Except.bind_eq_error unmade with unconnected | ⟨connection, _, unmade⟩
  · exact connection_error unconnected
  rcases Except.bind_eq_error unmade with nowhere | ⟨url, _, unmade⟩
  · exact ofUrl_error nowhere
  rcases Except.bind_eq_error unmade with unwritten | ⟨_, _, unmade⟩
  · cases session with
    | none => cases unwritten
    | some id => exact header_error (Except.map_eq_error unwritten)
  rcases Except.bind_eq_error unmade with unsendable | ⟨_, _, unmade⟩
  · cases body with
    | none => cases unsendable
    | some body => exact checkBody_error unsendable
  rcases Except.bind_eq_error unmade with unnamed | ⟨_, _, ⟨⟩⟩
  exact checkHost_error unnamed

/-- What keeps a request from being made: the address, the id of the session or the body. -/
inductive Hindered (gateway : Gateway σ) (path : String) (body session : Option Json) : Prop
  | address (nowhere : ∀ url, gateway.address path = .ok url → checkHost url ≠ .ok ())
  | session {fault : Fault} (unwritten : session.mapM header = .error fault)
  | body {fault : Fault} (unsendable : body.forM checkBody = .error fault)

theorem hindered_iff {verb : Http.Verb} {path : String} {body session : Option Json} :
    gateway.Hindered path body session ↔
      ∃ fault, gateway.composed verb path body session = .error fault := by
  constructor
  · intro hindered
    cases made : gateway.composed verb path body session with
    | error fault => exact ⟨fault, rfl⟩
    | ok request =>
        obtain ⟨text, written, checked, named, sends⟩ := checked_of_composed made
        cases hindered with
        | address nowhere => exact absurd named (nowhere request.url sends.url_eq)
        | session unwritten =>
            rw [written] at unwritten
            cases unwritten
        | body unsendable =>
            rw [checked] at unsendable
            cases unsendable
  · rintro ⟨fault, unmade⟩
    cases found : gateway.address path with
    | error other => exact .address (by rw [found]; rintro url ⟨⟩)
    | ok url =>
        cases written : session.mapM header with
        | error other => exact .session written
        | ok text =>
            cases checked : body.forM checkBody with
            | error other => exact .body checked
            | ok _ =>
                refine .address ?_
                rw [found]
                rintro _ ⟨⟩ named
                obtain ⟨connection, connected, below⟩ := Except.bind_eq_ok found
                rw [composed_ok connected below written checked named] at unmade
                cases unmade

theorem not_hindered {verb : Http.Verb} {path : String} {body session : Option Json}
    {request : Http.Request} (made : gateway.composed verb path body session = .ok request) :
    ¬ gateway.Hindered path body session := by
  intro hindered
  obtain ⟨fault, unmade⟩ := hindered_iff.mp hindered
  rw [made] at unmade
  cases unmade

end Gateway

/-! ## Answers -/

/-- The container at which reading a text was given up. -/
def Json.tooDeep? : Except Misread Json → Option Container
  | .error ⟨.depth container, _⟩ => some container
  | _ => none

namespace Http.Response

/-- A response that counts as an answer: an object, with one of the two statuses. -/
def Answers (response : Response) (fields : Fields) : Prop :=
  ∃ status body, response = .answered status body ∧ (status = 200 ∨ status = 201) ∧
    Json.parseBytes body.toList = .ok (.obj fields)

/-- A response that would count as an answer if its text could be read to the end. -/
def IsTooDeep (response : Response) (container : Json.Container) : Prop :=
  ∃ status body place, response = .answered status body ∧ (status = 200 ∨ status = 201) ∧
    Json.parseBytes body.toList = .error ⟨.depth container, place⟩

theorem isTooDeep_of_tooDeep? {status : Int} {body : String} {container : Json.Container}
    (good : status = 200 ∨ status = 201)
    (deep : Json.tooDeep? (Json.parseBytes body.toList) = some container) :
    (answered status body).IsTooDeep container := by
  unfold Json.tooDeep? at deep
  split at deep
  · next place read =>
    cases deep
    exact ⟨status, body, place, rfl, good, read⟩
  · cases deep

theorem Answers.unique {response : Response} {fields others : Fields}
    (answers : response.Answers fields) (same : response.Answers others) : fields = others := by
  obtain ⟨status, body, rfl, _, read⟩ := answers
  obtain ⟨_, _, again, _, reread⟩ := same
  cases again
  rw [read] at reread
  cases reread
  rfl

theorem Answers.not_isTooDeep {response : Response} {fields : Fields}
    (answers : response.Answers fields) (container : Json.Container) :
    ¬ response.IsTooDeep container := by
  rintro ⟨_, _, place, again, _, deep⟩
  obtain ⟨status, body, rfl, _, read⟩ := answers
  cases again
  rw [read] at deep
  cases deep

end Http.Response

namespace Gateway

def understood (verb : Http.Verb) (path : String) (request : Http.Request) :
    Http.Response → Except Fault Fields
  | .unreachable reason => .error (.gateway (.unreachable reason))
  | .answered status body =>
    if request.url.hasType then decode verb path (.answered status body)
    else .error (.noType request.address)

/-- What a response to a request comes to. -/
inductive Understood (request : Http.Request) : Http.Response → Except Fault Fields → Prop
  | answer {response : Http.Response} {fields : Fields} (typed : request.url.hasType = true)
      (answers : response.Answers fields) : Understood request response (.ok fields)
  | refused {response : Http.Response} (fault : GatewayFault)
      (silent : ∀ fields, ¬ response.Answers fields)
      (shallow : ∀ container, ¬ response.IsTooDeep container)
      (typed : request.url.hasType = true ∨ ∃ reason, response = .unreachable reason) :
      Understood request response (.error (.gateway fault))
  | tooDeep {response : Http.Response} {container : Json.Container}
      (typed : request.url.hasType = true) (deep : response.IsTooDeep container) :
      Understood request response (.error (.tooDeep container))
  | noType (status : Int) (body : String) (untyped : request.url.hasType = false) :
      Understood request (.answered status body) (.error (.noType request.address))

theorem decode_understood (verb : Http.Verb) (path : String) {request : Http.Request}
    (typed : request.url.hasType = true) (status : Int) (body : String) :
    Understood request (.answered status body) (decode verb path (.answered status body)) := by
  simp only [decode]
  split
  · next good =>
    have refused : ∀ fault, (∀ fields, Json.parseBytes body.toList ≠ .ok (.obj fields)) →
        (∀ container place, Json.parseBytes body.toList ≠ .error ⟨.depth container, place⟩) →
        Understood request (.answered status body) (.error (.gateway fault)) := by
      intro fault other shallow
      refine .refused fault ?_ ?_ (.inl typed)
      · rintro fields ⟨_, _, same, _, read⟩
        cases same
        exact other fields read
      · rintro container ⟨_, _, place, same, _, read⟩
        cases same
        exact shallow container place read
    split
    · next container place read => exact .tooDeep typed ⟨status, body, place, rfl, good, read⟩
    · next misread shallow read =>
      refine refused _ ?_ ?_
      · intro fields same
        rw [read] at same
        cases same
      · intro container place same
        rw [read] at same
        cases same
        exact shallow container place rfl
    · next fields read => exact .answer typed ⟨status, body, rfl, good, read⟩
    · next value other read =>
      refine refused _ ?_ ?_
      · intro fields same
        rw [read] at same
        cases same
        exact other fields rfl
      · intro container place same
        rw [read] at same
        cases same
  · next bad =>
    refine .refused _ ?_ ?_ (.inl typed)
    · rintro fields ⟨_, _, same, good, _⟩
      cases same
      exact bad good
    · rintro container ⟨_, _, _, same, good, _⟩
      cases same
      exact bad good

theorem understood_spec (verb : Http.Verb) (path : String) (request : Http.Request)
    (response : Http.Response) :
    Understood request response (understood verb path request response) := by
  cases response with
  | unreachable reason =>
      refine .refused _ ?_ ?_ (.inr ⟨reason, rfl⟩)
      · rintro fields ⟨_, _, same, _⟩
        cases same
      · rintro container ⟨_, _, _, same, _⟩
        cases same
  | answered status body =>
      simp only [understood]
      split
      · next typed => exact decode_understood verb path typed status body
      · next untyped => exact .noType status body (Bool.not_eq_true _ ▸ untyped)

/-! ## Submitting -/

/-- What submitting a request comes to: it cannot be made and is not sent, or it is sent once. -/
inductive Submission (gateway : Gateway σ) (verb : Http.Verb) (path : String)
    (body session : Option Json) (client : Client σ) : Except Fault Fields × Int × Client σ → Prop
  | unsent {fault : Fault} {connection : Option Connection}
      (unmade : gateway.composed verb path body session = .error fault)
      (settled : gateway.Settled { client with connection }) :
      Submission gateway verb path body session client (.error fault, 0, { client with connection })
  | sent {request : Http.Request} {exchange : Http.Exchange} {transport : σ}
      {connection : Option Connection}
      (made : gateway.composed verb path body session = .ok request)
      (carried : gateway.transport request client.transport = (exchange, transport))
      (settled : gateway.Settled { client with connection, transport }) :
      Submission gateway verb path body session client
        (understood verb path request exchange.response, exchange.elapsed,
          { client with connection, transport })

theorem submission (settled : gateway.Settled client) (verb : Http.Verb) (path : String)
    (body session : Option Json) : gateway.Submission verb path body session client
      (gateway.submit verb path body session client) := by
  obtain ⟨connection, prepared, after⟩ := prepare_eq settled verb path body session
  unfold submit
  rw [prepared]
  cases made : gateway.composed verb path body session with
  | error fault => exact .unsent made after
  | ok request =>
      rcases carried : gateway.transport request client.transport with ⟨exchange, transport⟩
      have sent : gateway.Submission verb path body session client _ := .sent made carried after
      simp only [Gateway.exchange, carried]
      revert sent
      cases exchange.response with
      | unreachable reason => exact id
      | answered status text =>
          simp only [understood]
          split <;> exact id

/-! ## Asking for the health -/

def diagnosed (request : Http.Request) (inSession : Bool) : Http.Response → Except Fault Health
  | .unreachable reason => .ok (.unreachable reason)
  | .answered status _ =>
    if request.url.hasType then .ok (if status = 200 then .healthy inSession else .degraded status)
    else .error (.noType request.address)

/-- What asking for the health comes to: the request cannot be made and is not sent, or it is sent
once. -/
inductive Checkup (gateway : Gateway σ) (world : World (Client σ)) :
    Except Fault Health × World (Client σ) → Prop
  | unsent {fault : Fault} {connection : Option Connection}
      (unmade : gateway.composed .get healthPath none none = .error fault)
      (settled : gateway.Settled { world.backend with connection }) :
      Checkup gateway world (.error fault,
        { world with backend := { world.backend with connection } })
  | sent {request : Http.Request} {exchange : Http.Exchange} {transport : σ}
      {connection : Option Connection}
      (made : gateway.composed .get healthPath none none = .ok request)
      (carried : gateway.transport request world.backend.transport = (exchange, transport))
      (settled : gateway.Settled { world.backend with connection, transport }) :
      Checkup gateway world (diagnosed request world.backend.session.isSome exchange.response,
        { world.advance exchange.elapsed with
          backend := { world.backend with connection, transport } })

theorem checkup {world : World (Client σ)} (settled : gateway.Settled world.backend) :
    gateway.Checkup world (gateway.health.runIn world) := by
  obtain ⟨connection, prepared, after⟩ := prepare_eq settled .get healthPath none none
  simp only [health, Act.runIn, prepared]
  cases made : gateway.composed .get healthPath none none with
  | error fault => exact .unsent made after
  | ok request =>
      rcases carried : gateway.transport request world.backend.transport with ⟨exchange, transport⟩
      have sent : gateway.Checkup world _ := .sent made carried after
      simp only [Gateway.exchange, carried]
      revert sent
      cases exchange.response with
      | unreachable reason => exact id
      | answered status text =>
          simp only [diagnosed]
          split
          · dsimp only
            split <;> exact id
          · exact id

end Gateway

end ChainFlow
