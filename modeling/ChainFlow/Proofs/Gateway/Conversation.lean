import ChainFlow.Proofs.Gateway.Surfacing

/-!
# Conversations with a gateway

A client opens sessions, runs errands, asks for the health of the gateway and closes its connection, in
any order. `converse` tells what is said to the gateway on the way: a `Turn` is what was done, with the
requests that were sent for it and what came of it. In every conversation that begins with a stranger,
each errand is run with the id and for the user of the session that was opened last, and only opening
one changes them (`course_converse`).
-/

namespace ChainFlow

variable {σ : Type}

/-! ## Opening a session -/

/-- A response that opens a session: an answer with an id that does not count as none. -/
def Http.Response.Opens (response : Response) (id : Json) : Prop :=
  ∃ fields, response.Answers fields ∧ Fields.get? fields "sessionId" = some id ∧ id.truthy = true

theorem opens_iff {response : Http.Response} {fields : Fields} (answers : response.Answers fields)
    (id : Json) : response.Opens id ↔ Gateway.sessionOf fields = .ok id := by
  unfold Gateway.sessionOf
  constructor
  · rintro ⟨same, again, found, truthy⟩
    cases answers.unique again
    simp [found, truthy]
  · intro established
    refine ⟨fields, answers, ?_⟩
    split at established
    · next other found =>
      split at established
      · next truthy =>
        cases established
        exact ⟨found, truthy⟩
      · cases established
    · cases established

theorem sessionOf_eq_error {fields : Fields} {fault : Fault}
    (unestablished : Gateway.sessionOf fields = .error fault) : fault = .gateway .noSession := by
  unfold Gateway.sessionOf at unestablished
  split at unestablished
  · split at unestablished <;> cases unestablished
    rfl
  · cases unestablished
    rfl

namespace Gateway

/-- What opening a session for a user comes to: the request cannot be made; or it is sent once, and the
session is opened, the gateway fails or the response is garbled. -/
inductive Admission (gateway : Gateway σ) (user : String) (world : World (Client σ)) :
    Except Fault Unit × World (Client σ) → Prop
  | unasked {fault : Fault} {connection : Option Connection}
      (unmade : gateway.composed .post sessionsPath (some (gateway.introduction user)) none =
        .error fault)
      (settled : gateway.Settled { world.backend with connection }) :
      Admission gateway user world
        (.error fault, { world with backend := { world.backend with connection } })
  | opened {id : Json} {request : Http.Request} {exchange : Http.Exchange} {transport : σ}
      {connection : Option Connection}
      (made : gateway.composed .post sessionsPath (some (gateway.introduction user)) none =
        .ok request)
      (carried : gateway.transport request world.backend.transport = (exchange, transport))
      (settled : gateway.Settled ⟨some id, some user, connection, transport⟩)
      (typed : request.url.hasType = true) (opens : exchange.response.Opens id) :
      Admission gateway user world (.ok (), { world.advance exchange.elapsed with
        backend := ⟨some id, some user, connection, transport⟩ })
  | failed {fault : GatewayFault} {request : Http.Request} {exchange : Http.Exchange}
      {transport : σ} {connection : Option Connection}
      (made : gateway.composed .post sessionsPath (some (gateway.introduction user)) none =
        .ok request)
      (carried : gateway.transport request world.backend.transport = (exchange, transport))
      (settled : gateway.Settled { world.backend with connection, transport })
      (other : ∀ id, ¬ exchange.response.Opens id)
      (shallow : ∀ container, ¬ exchange.response.IsTooDeep container)
      (told : fault = .noSession ∨
        understood .post sessionsPath request exchange.response = .error (.gateway fault)) :
      Admission gateway user world (.error (.gateway fault), { world.advance exchange.elapsed with
        backend := { world.backend with connection, transport } })
  | garbled {fault : Fault} {request : Http.Request} {exchange : Http.Exchange}
      {transport : σ} {connection : Option Connection}
      (made : gateway.composed .post sessionsPath (some (gateway.introduction user)) none =
        .ok request)
      (carried : gateway.transport request world.backend.transport = (exchange, transport))
      (settled : gateway.Settled { world.backend with connection, transport })
      (garbled : Garbles established request exchange.response) (escapes : ¬ fault.IsOfGateway) :
      Admission gateway user world (.error fault, { world.advance exchange.elapsed with
        backend := { world.backend with connection, transport } })

theorem admission {gateway : Gateway σ} {world : World (Client σ)}
    (settled : gateway.Settled world.backend) (user : String) :
    gateway.Admission user world ((gateway.openSession user).runIn world) := by
  have submitted := submission settled .post sessionsPath (some (gateway.introduction user)) none
  rw [runIn_openSession]
  generalize gateway.submit .post sessionsPath (some (gateway.introduction user)) none world.backend =
    out at submitted
  cases submitted with
  | unsent unmade settled =>
      have unasked : gateway.Admission user world _ := .unasked unmade settled
      simpa [afterwards, World.advance, Except.bind] using unasked
  | @sent request exchange transport connection made carried settled =>
      have understanding := understood_spec .post sessionsPath request exchange.response
      obtain ⟨response, elapsed⟩ := exchange
      generalize received : understood .post sessionsPath request response = result at understanding
      dsimp only at understanding ⊢
      cases understanding with
      | @answer _ fields typed answers =>
          simp only [Except.bind]
          cases established : sessionOf fields with
          | ok id => exact .opened made carried settled typed ((opens_iff answers id).mpr established)
          | error fault =>
              cases sessionOf_eq_error established
              refine .failed made carried settled ?_ answers.not_isTooDeep (.inl rfl)
              intro id opens
              rw [opens_iff answers, established] at opens
              cases opens
      | refused fault silent shallow typed =>
          refine .failed made carried settled ?_ shallow (.inr received)
          rintro id ⟨fields, answers, _⟩
          exact silent fields answers
      | tooDeep typed deep =>
          refine .garbled made carried settled (.tooDeep _ deep) ?_
          rintro ⟨cause, ⟨⟩⟩
      | noType status body untyped =>
          refine .garbled made carried settled (.noType _ _ untyped) ?_
          rintro ⟨cause, ⟨⟩⟩

end Gateway

/-! ## Keeping a record -/

/-- A request that was sent, and the response. -/
structure Remark where
  request : Http.Request
  response : Http.Response

/-- A transport with a record of all that it has carried. -/
def Http.Transport.recorded (transport : Http.Transport σ) : Http.Transport (σ × List Remark) :=
  fun request state =>
    let (exchange, inner) := transport request state.1
    (exchange, inner, state.2 ++ [⟨request, exchange.response⟩])

def Gateway.recorded (gateway : Gateway σ) : Gateway (σ × List Remark) :=
  ⟨gateway.config, gateway.transport.recorded⟩

/-- What has been said in a world. -/
def World.said (world : World (Client (σ × List Remark))) : List Remark :=
  world.backend.transport.2

/-! ## Conversations -/

inductive Deed where
  | opens (user : String)
  | runs (errand : Errand)
  | checks
  | closes

def Deed.act (gateway : Gateway σ) (engine : Engine (Client σ)) : Deed → Act (Client σ) Unit
  | opens user => gateway.openSession user
  | runs errand => (fun _ => ()) <$> engine.carryOut errand
  | checks => (fun _ => ()) <$> gateway.health
  | closes => Gateway.close

structure Turn where
  deed : Deed
  said : List Remark
  result : Except Fault Unit

def Gateway.converse (gateway : Gateway (σ × List Remark)) (engine : Engine (Client (σ × List Remark))) :
    List Deed → World (Client (σ × List Remark)) → List Turn × World (Client (σ × List Remark))
  | [], world => ([], world)
  | deed :: rest, world =>
    let (result, after) := (deed.act gateway engine).runIn world
    let (turns, last) := gateway.converse engine rest after
    (⟨deed, after.said.drop world.said.length, result⟩ :: turns, last)

/-! ## What may be said -/

/-- The id of a session, and the user that it was opened for. -/
structure Opened where
  id : Json
  user : String

def Client.Holds (client : Client σ) (held : Option Opened) : Prop :=
  client.session = held.map (·.id) ∧ client.user = held.map (·.user)

namespace Gateway

/-- What may come of opening a session for a user: what is said, the result, and the session that is
held afterwards. -/
inductive Opening (gateway : Gateway σ) (user : String) (held : Option Opened) :
    List Remark → Except Fault Unit → Option Opened → Prop
  | opened {id : Json} {request : Http.Request} {response : Http.Response}
      (asks : gateway.Sends .post sessionsPath (some (gateway.introduction user)) none request)
      (typed : request.url.hasType = true) (opens : response.Opens id) :
      Opening gateway user held [⟨request, response⟩] (.ok ()) (some ⟨id, user⟩)
  | failed {fault : GatewayFault} {request : Http.Request} {response : Http.Response}
      (asks : gateway.Sends .post sessionsPath (some (gateway.introduction user)) none request)
      (other : ∀ id, ¬ response.Opens id) :
      Opening gateway user held [⟨request, response⟩] (.error (.gateway fault)) held
  | garbled {fault : Fault} {request : Http.Request} {response : Http.Response}
      (asks : gateway.Sends .post sessionsPath (some (gateway.introduction user)) none request)
      (garbled : Garbles established request response) (escapes : ¬ fault.IsOfGateway) :
      Opening gateway user held [⟨request, response⟩] (.error fault) held
  | unasked {fault : Fault}
      (hindered : gateway.Hindered sessionsPath (some (gateway.introduction user)) none)
      (escapes : ¬ fault.IsOfGateway) :
      Opening gateway user held [] (.error fault) held

/-- What may come of running an errand: what is said, and the result. -/
inductive Running (gateway : Gateway σ) (errand : Errand) :
    Option Opened → List Remark → Except Fault Unit → Prop
  | ran {id user : String} {call : Call} {request : Http.Request} {response : Http.Response}
      {result : Except Fault Unit} (written : errand.toCall user = .ok call)
      (asks : gateway.Sends call.method.verb call.method.path call.body (some id) request) :
      Running gateway errand (some ⟨.str id, user⟩) [⟨request, response⟩] result
  | unasked {id : Json} {user : String} {call : Call} {fault : Fault}
      (written : errand.toCall user = .ok call)
      (hindered : gateway.Hindered call.method.path call.body (some id)) :
      Running gateway errand (some ⟨id, user⟩) [] (.error fault)
  | unwritten {held : Option Opened} {fault : Fault}
      (unwritten : errand.toCall ((held.map (·.user)).getD "") = .error fault) :
      Running gateway errand held [] (.error fault)
  | unopened : Running gateway errand none [] (.error .notConnected)

/-- What may come of a deed. -/
inductive Proper (gateway : Gateway σ) : Option Opened → Turn → Option Opened → Prop
  | opens {user : String} {held after : Option Opened} {said : List Remark}
      {result : Except Fault Unit} (opening : gateway.Opening user held said result after) :
      Proper gateway held ⟨.opens user, said, result⟩ after
  | runs {errand : Errand} {held : Option Opened} {said : List Remark} {result : Except Fault Unit}
      (running : gateway.Running errand held said result) :
      Proper gateway held ⟨.runs errand, said, result⟩ held
  | checked {held : Option Opened} {request : Http.Request} {response : Http.Response}
      {result : Except Fault Unit} (asks : gateway.Sends .get healthPath none none request) :
      Proper gateway held ⟨.checks, [⟨request, response⟩], result⟩ held
  | unchecked {held : Option Opened} {fault : Fault}
      (hindered : gateway.Hindered healthPath none none) :
      Proper gateway held ⟨.checks, [], .error fault⟩ held
  | closed {held : Option Opened} : Proper gateway held ⟨.closes, [], .ok ()⟩ held

/-- A conversation in which every turn is proper. -/
inductive Course (gateway : Gateway σ) : Option Opened → List Turn → Option Opened → Prop
  | silent {held : Option Opened} : Course gateway held [] held
  | turn {held next last : Option Opened} {turn : Turn} {turns : List Turn}
      (proper : gateway.Proper held turn next) (rest : gateway.Course next turns last) :
      Course gateway held (turn :: turns) last

end Gateway

/-! ## A turn -/

theorem Act.runIn_map {α β : Type} (f : α → β) (act : Act σ α) (world : World σ) :
    (f <$> act).runIn world = ((act.runIn world).1.map f, (act.runIn world).2) := by
  change runIn (EStateM.map f act) world = _
  unfold runIn EStateM.map
  cases act world <;> rfl

variable {gateway : Gateway σ} {engine : Engine (Client (σ × List Remark))}
  {world : World (Client (σ × List Remark))} {held : Option Opened}

namespace Gateway

/-- What a turn comes to in a world. -/
structure Takes (gateway : Gateway σ) (deed : Deed) (held : Option Opened) (said : List Remark)
    (next : Option Opened) (world : World (Client (σ × List Remark)))
    (out : Except Fault Unit × World (Client (σ × List Remark))) : Prop where
  said_eq : out.2.said = world.said ++ said
  proper : gateway.recorded.Proper held ⟨deed, said, out.1⟩ next
  holds : out.2.backend.Holds next
  settled : gateway.recorded.Settled out.2.backend

theorem said_of_carried {request : Http.Request} {exchange : Http.Exchange}
    {before after : σ × List Remark}
    (carried : gateway.recorded.transport request before = (exchange, after)) :
    after.2 = before.2 ++ [⟨request, exchange.response⟩] := by
  cases carried
  rfl

theorem takes_closes (holds : world.backend.Holds held) :
    gateway.Takes .closes held [] held world ((Deed.closes.act gateway.recorded engine).runIn world) where
  said_eq := (List.append_nil _).symm
  proper := .closed
  holds := holds
  settled := by rintro connection ⟨⟩

theorem takes_checks (settled : gateway.recorded.Settled world.backend)
    (holds : world.backend.Holds held) : ∃ said,
    gateway.Takes .checks held said held world
      ((Deed.checks.act gateway.recorded engine).runIn world) := by
  have checked := checkup settled
  unfold Deed.act
  rw [Act.runIn_map]
  generalize gateway.recorded.health.runIn world = out at checked
  cases checked with
  | unsent unmade settled =>
      refine ⟨[], (List.append_nil _).symm, ?_, holds, settled⟩
      exact .unchecked (hindered_iff.mpr ⟨_, unmade⟩)
  | @sent request exchange transport connection made carried settled =>
      exact ⟨_, said_of_carried carried, .checked (sends_of_composed made), holds, settled⟩

theorem takes_opens (settled : gateway.recorded.Settled world.backend)
    (holds : world.backend.Holds held) (user : String) : ∃ said next,
    gateway.Takes (.opens user) held said next world
      (((Deed.opens user).act gateway.recorded engine).runIn world) := by
  have admitted := admission settled user
  unfold Deed.act
  generalize (gateway.recorded.openSession user).runIn world = out at admitted
  cases admitted with
  | unasked unmade settled =>
      refine ⟨[], held, (List.append_nil _).symm, .opens ?_, holds, settled⟩
      exact .unasked (hindered_iff.mpr ⟨_, unmade⟩) (composed_error unmade)
  | @opened id _ _ _ _ made carried settled typed opens =>
      exact ⟨_, some ⟨id, user⟩, said_of_carried carried,
        .opens (.opened (sends_of_composed made) typed opens), ⟨rfl, rfl⟩, settled⟩
  | failed made carried settled other shallow told =>
      exact ⟨_, held, said_of_carried carried, .opens (.failed (sends_of_composed made) other), holds,
        settled⟩
  | garbled made carried settled garbled escapes =>
      exact ⟨_, held, said_of_carried carried,
        .opens (.garbled (sends_of_composed made) garbled escapes), holds, settled⟩

theorem takes_runs (connected : engine.backend = some gateway.recorded.backend)
    (settled : gateway.recorded.Settled world.backend) (holds : world.backend.Holds held)
    (errand : Errand) : ∃ said, gateway.Takes (.runs errand) held said held world
      (((Deed.runs errand).act gateway.recorded engine).runIn world) := by
  unfold Deed.act
  rw [Act.runIn_map]
  have user_eq : gateway.recorded.backend.user world.backend = held.map (·.user) := holds.2
  cases written : errand.toCall ((held.map (·.user)).getD "") with
  | error fault =>
      rw [Engine.runIn_carryOut connected, user_eq, written]
      exact ⟨[], (List.append_nil _).symm, .runs (.unwritten written), holds, settled⟩
  | ok call =>
      cases held with
      | none =>
          have answered : gateway.recorded.backend.answer call world.backend =
              (⟨.error .notConnected, 0⟩, world.backend) := by
            show gateway.recorded.answer call world.backend = _
            rw [answer_eq]
            simp only [ask, holds.1, Option.map_none]
            rfl
          rw [Engine.runIn_carryOut connected, user_eq, written]
          simp only [Engine.answeredBy, answered]
          exact ⟨[], (List.append_nil _).symm, .runs .unopened, holds, settled⟩
      | some opened =>
          obtain ⟨id, user⟩ := opened
          have user_eq : world.backend.user = some user := holds.2
          have submitted := submission settled call.method.verb call.method.path call.body (some id)
          rw [runIn_carryOut connected holds.1 (by rw [user_eq]; exact written)]
          generalize gateway.recorded.submit call.method.verb call.method.path call.body (some id)
            world.backend = out at submitted
          cases submitted with
          | unsent unmade settled =>
              refine ⟨[], (List.append_nil _).symm, .runs ?_, holds, settled⟩
              exact .unasked written (hindered_iff.mpr ⟨_, unmade⟩)
          | @sent request exchange transport connection made carried settled =>
              obtain ⟨text, rfl, asks⟩ := sends_of_composed_some made
              exact ⟨_, said_of_carried carried, .runs (.ran written asks), holds, settled⟩

theorem takes_act (connected : engine.backend = some gateway.recorded.backend)
    (settled : gateway.recorded.Settled world.backend) (holds : world.backend.Holds held)
    (deed : Deed) : ∃ said next, gateway.Takes deed held said next world
      ((deed.act gateway.recorded engine).runIn world) := by
  cases deed with
  | opens user => exact takes_opens settled holds user
  | runs errand =>
      obtain ⟨said, takes⟩ := takes_runs connected settled holds errand
      exact ⟨said, held, takes⟩
  | checks =>
      obtain ⟨said, takes⟩ := takes_checks settled holds
      exact ⟨said, held, takes⟩
  | closes => exact ⟨[], held, takes_closes holds⟩

/-! ## A conversation -/

theorem course_converse (connected : engine.backend = some gateway.recorded.backend)
    (settled : gateway.recorded.Settled world.backend) (holds : world.backend.Holds held)
    (deeds : List Deed) : ∃ last,
      gateway.recorded.Course held (gateway.recorded.converse engine deeds world).1 last ∧
      (gateway.recorded.converse engine deeds world).2.backend.Holds last ∧
      gateway.recorded.Settled (gateway.recorded.converse engine deeds world).2.backend ∧
      (gateway.recorded.converse engine deeds world).2.said =
        world.said ++ (gateway.recorded.converse engine deeds world).1.flatMap (·.said) := by
  induction deeds generalizing world held with
  | nil => exact ⟨held, .silent, holds, settled, (List.append_nil _).symm⟩
  | cons deed rest ih =>
      obtain ⟨said, next, takes⟩ := takes_act connected settled holds deed
      obtain ⟨last, course, holds, settled, all⟩ := ih takes.settled takes.holds
      refine ⟨last, ?_, holds, settled, ?_⟩
      · unfold converse
        dsimp only
        rw [takes.said_eq, List.drop_left]
        exact .turn takes.proper course
      · unfold converse
        dsimp only
        rw [all, takes.said_eq, List.flatMap_cons, List.append_assoc, List.drop_left]

end Gateway

end ChainFlow
