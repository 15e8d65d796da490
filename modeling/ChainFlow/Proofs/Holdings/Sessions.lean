import ChainFlow.Proofs.Gateway.Conversation
import ChainFlow.Proofs.Holdings.Keeping

/-!
# Holdings and sessions

Holdings are kept by themselves, without the session in which they were asked for. So a service of
holdings with a gateway for a backend is looked into while sessions are opened: `Chronicle` says
whose holdings each answer gives. They are from an answer of the gateway to a request with the id of
a session, and bear the name of its user (`accounts_attend`); this is the session that is open,
unless they were kept and another one has been opened since (`Tells.isAccountOf_session`). If one
has, the user of the new session is given the holdings of the user before (`account_of_another`).
-/

namespace ChainFlow

variable {σ : Type}

/-! ## Accounts -/

/-- Assets as they were reported: what was said for it, when, and the holdings they amount to. -/
structure Account where
  said : List Remark
  assets : List Asset
  time : Int
  holdings : Holdings

namespace Gateway

/-- What asking for the assets of the user of a session comes to: what is said, and the result. -/
inductive Fetching (gateway : Gateway σ) :
    Option Opened → List Remark → Except Fault (List Asset) → Prop
  | reported {id user : String} {request : Http.Request} {response : Http.Response}
      {fields : Fields} {assets : List Asset}
      (asks : gateway.Sends .get Method.balances.path none (some id) request)
      (answers : response.Answers fields) (reads : Engine.readAssets (listed fields) = .ok assets) :
      Fetching gateway (some ⟨.str id, user⟩) [⟨request, response⟩] (.ok assets)
  | failed {id user : String} {request : Http.Request} {response : Http.Response} {fault : Fault}
      (asks : gateway.Sends .get Method.balances.path none (some id) request) :
      Fetching gateway (some ⟨.str id, user⟩) [⟨request, response⟩] (.error fault)
  | unasked {id : Json} {user : String} {fault : Fault}
      (hindered : gateway.Hindered Method.balances.path none (some id)) :
      Fetching gateway (some ⟨id, user⟩) [] (.error fault)
  | unopened : Fetching gateway none [] (.error .notConnected)

/-- An account of what the user of a session holds, that was asked for in the session. -/
structure IsAccountOf (gateway : Gateway σ) (account : Account) (held : Option Opened) : Prop where
  fetched : gateway.Fetching held account.said (.ok account.assets)
  totals : Holdings.ofAssets (held.map (·.user)) account.time account.assets = .ok account.holdings

theorem IsAccountOf.user_eq {gateway : Gateway σ} {account : Account} {held : Option Opened}
    (isAccount : gateway.IsAccountOf account held) :
    ∃ opened, held = some opened ∧ account.holdings.user = some opened.user := by
  have named := (Holdings.stamped_of_ofAssets isAccount.totals).1
  have fetched := isAccount.fetched
  generalize account.said = said at fetched
  cases fetched
  exact ⟨_, rfl, named⟩

end Gateway

/-! ## Histories -/

inductive Occasion where
  | does (deed : Deed)
  | waits (milliseconds : Int)
  | looks (fresh : Bool)

inductive Entry where
  | did (turn : Turn)
  | waited
  | looked (time : Int) (fresh : Bool) (said : List Remark) (answer : Except Fault Statement)

def Entry.holdings? : Entry → Option Holdings
  | looked _ _ _ (.ok statement) => statement.holdings?
  | _ => none

def Gateway.attend (gateway : Gateway (σ × List Remark))
    (engine : Engine (Client (σ × List Remark))) (lifetime : Int) :
    List Occasion → Option Holdings → World (Client (σ × List Remark)) →
      List Entry × Option Holdings × World (Client (σ × List Remark))
  | [], kept, world => ([], kept, world)
  | .does deed :: rest, kept, world =>
    let (result, after) := (deed.act gateway engine).runIn world
    let (entries, last) := gateway.attend engine lifetime rest kept after
    (.did ⟨deed, after.said.drop world.said.length, result⟩ :: entries, last)
  | .waits milliseconds :: rest, kept, world =>
    let (entries, last) := gateway.attend engine lifetime rest kept (world.advance milliseconds)
    (.waited :: entries, last)
  | .looks fresh :: rest, kept, world =>
    let (answer, kept, after) := engine.holdings lifetime fresh kept world
    let (entries, last) := gateway.attend engine lifetime rest kept after
    (.looked world.clock fresh (after.said.drop world.said.length) answer :: entries, last)

/-- What the answers depend on: the sessions that were opened and the accounts that were given; all
lists of milestones begin with the last one. -/
inductive Milestone where
  | opened (session : Opened)
  | reported (account : Account)

namespace Milestone

/-- The session that is open. -/
def session : List Milestone → Option Opened
  | [] => none
  | opened session :: _ => some session
  | reported _ :: past => session past

end Milestone

open Milestone (session)

namespace Gateway

/-- The last account, with the sessions that were opened since and with what was before. -/
structure Recalls (gateway : Gateway σ) (past : List Milestone) (account : Account)
    (since : List Opened) (older : List Milestone) : Prop where
  past_eq : past = since.map .opened ++ .reported account :: older
  isAccount : gateway.IsAccountOf account (session older)

/-- The answer to a request for a statement, with what is said for it and the milestones
afterwards. -/
inductive Tells (gateway : Gateway σ) (lifetime : Int) (past : List Milestone) (time : Int)
    (fresh : Bool) : List Remark → Except Fault Statement → List Milestone → Prop
  | kept {account : Account} {since : List Opened} {older : List Milestone} (wanted : fresh = false)
      (recalls : gateway.Recalls past account since older)
      (recent : time - 1000 * account.holdings.taken ≤ lifetime) :
      Tells gateway lifetime past time fresh [] (.ok (.holds account.holdings true)) past
  | reported {account : Account} (isAccount : gateway.IsAccountOf account (session past)) :
      Tells gateway lifetime past time fresh account.said (.ok (.holds account.holdings false))
        (.reported account :: past)
  | unavailable {said : List Remark} {fault : Fault}
      (failed : gateway.Fetching (session past) said (.error fault)) :
      Tells gateway lifetime past time fresh said
        (.ok (.unavailable ((session past).map (·.user)) fault.message)) past
  | unpriced {said : List Remark} {assets : List Asset} {asset : Asset} {fault : Fault}
      (fetched : gateway.Fetching (session past) said (.ok assets)) (member : asset ∈ assets)
      (odd : ¬ asset.IsPriced) :
      Tells gateway lifetime past time fresh said (.error fault) past

/-- Holdings that are given are those of the user whose session is open, unless they were kept and
the session has been opened since. -/
theorem Tells.isAccountOf_session {gateway : Gateway σ} {lifetime time : Int} {fresh kept : Bool}
    {past next : List Milestone} {said : List Remark} {holdings : Holdings}
    (tells : gateway.Tells lifetime past time fresh said (.ok (.holds holdings kept)) next)
    (unchanged : kept = true → ∀ opened older, past ≠ .opened opened :: older) :
    ∃ account opened, gateway.IsAccountOf account (session past) ∧ account.holdings = holdings ∧
      session past = some opened ∧ holdings.user = some opened.user := by
  cases tells with
  | @kept account since older wanted recalls recent =>
      obtain ⟨past_eq, isAccount⟩ := recalls
      cases since with
      | cons opened _ => exact absurd past_eq (unchanged rfl opened _)
      | nil =>
          subst past_eq
          obtain ⟨opened, isOpen, named⟩ := isAccount.user_eq
          exact ⟨account, opened, isAccount, rfl, isOpen, named⟩
  | @reported account isAccount =>
      obtain ⟨opened, isOpen, named⟩ := isAccount.user_eq
      exact ⟨account, opened, isAccount, rfl, isOpen, named⟩

inductive Chronicle (gateway : Gateway σ) (lifetime : Int) :
    List Milestone → List Entry → List Milestone → Prop
  | done {past : List Milestone} : Chronicle gateway lifetime past [] past
  | opened {past last : List Milestone} {user : String} {opened : Opened} {said : List Remark}
      {entries : List Entry}
      (opening : gateway.Opening user (session past) said (.ok ()) (some opened))
      (rest : gateway.Chronicle lifetime (.opened opened :: past) entries last) :
      Chronicle gateway lifetime past (.did ⟨.opens user, said, .ok ()⟩ :: entries) last
  | did {past last : List Milestone} {turn : Turn} {entries : List Entry}
      (proper : gateway.Proper (session past) turn (session past))
      (rest : gateway.Chronicle lifetime past entries last) :
      Chronicle gateway lifetime past (.did turn :: entries) last
  | waited {past last : List Milestone} {entries : List Entry}
      (rest : gateway.Chronicle lifetime past entries last) :
      Chronicle gateway lifetime past (.waited :: entries) last
  | looked {past next last : List Milestone} {time : Int} {fresh : Bool} {said : List Remark}
      {answer : Except Fault Statement} {entries : List Entry}
      (tells : gateway.Tells lifetime past time fresh said answer next)
      (rest : gateway.Chronicle lifetime next entries last) :
      Chronicle gateway lifetime past (.looked time fresh said answer :: entries) last

/-! ## Asking for the assets -/

variable {gateway : Gateway σ} {engine : Engine (Client (σ × List Remark))}
  {world : World (Client (σ × List Remark))} {held : Option Opened}

theorem probe_eq (connected : engine.backend = some gateway.recorded.backend) :
    engine.probe world = (world.backend.session.isSome, world) := by
  unfold Engine.probe
  rw [connected]
  rfl

theorem runIn_assets (connected : engine.backend = some gateway.recorded.backend) {id : Json}
    (isOpen : world.backend.session = some id) :
    let submitted := gateway.recorded.submit .get Method.balances.path none (some id) world.backend
    engine.assets.runIn world =
      (submitted.1.bind fun fields => Engine.readAssets (listed fields),
        afterwards (world.log (.sent ⟨.balances, .null⟩)) submitted) := by
  intro submitted
  have answered : gateway.recorded.backend.answer ⟨.balances, .null⟩ world.backend =
      (⟨submitted.1.map listed, submitted.2.1⟩, submitted.2.2) := by
    show gateway.recorded.answer ⟨.balances, .null⟩ world.backend = _
    exact answer_of_open isOpen ⟨.balances, .null⟩
  unfold Engine.assets
  rw [engine.runIn_isLive_bind, probe_eq connected, isOpen]
  show (engine.send ⟨.balances, .null⟩ >>= _).runIn world = _
  rw [Act.runIn_bind_ofExcept (engine.runIn_send connected _ world)]
  simp only [Engine.answeredBy, answered]
  cases submitted.1 <;> rfl

theorem fetching_assets (connected : engine.backend = some gateway.recorded.backend)
    (settled : gateway.recorded.Settled world.backend) (holds : world.backend.Holds held) :
    let out := engine.assets.runIn world
    ∃ said, out.2.said = world.said ++ said ∧ gateway.recorded.Fetching held said out.1 ∧
      out.2.backend.Holds held ∧ gateway.recorded.Settled out.2.backend := by
  cases held with
  | none =>
      have closed : engine.assets.runIn world = (.error .notConnected, world) := by
        have none : world.backend.session = none := holds.1
        unfold Engine.assets
        rw [engine.runIn_isLive_bind, probe_eq connected, none]
        rfl
      rw [closed]
      exact ⟨[], (List.append_nil _).symm, .unopened, holds, settled⟩
  | some opened =>
      obtain ⟨id, user⟩ := opened
      have submitted := submission settled .get Method.balances.path none (some id)
      rw [runIn_assets connected holds.1]
      generalize gateway.recorded.submit .get Method.balances.path none (some id) world.backend =
        out at submitted
      cases submitted with
      | unsent unmade settled =>
          exact ⟨[], (List.append_nil _).symm, .unasked (hindered_iff.mpr ⟨_, unmade⟩), holds,
            settled⟩
      | @sent request exchange transport connection made carried settled =>
          obtain ⟨text, rfl, asks⟩ := sends_of_composed_some made
          obtain ⟨response, elapsed⟩ := exchange
          refine ⟨_, said_of_carried carried, ?_, holds, settled⟩
          have understanding := understood_spec .get Method.balances.path request response
          dsimp only
          generalize understood .get Method.balances.path request response = result at *
          cases understanding with
          | @answer _ fields typed answers =>
              show gateway.recorded.Fetching _ _ (Engine.readAssets (listed fields))
              cases reads : Engine.readAssets (listed fields) with
              | error fault => exact .failed asks
              | ok assets => exact .reported asks answers reads
          | refused => exact .failed asks
          | tooDeep => exact .failed asks
          | noType => exact .failed asks

/-! ## One occasion -/

/-- What is remembered is what is kept, and the session is the one that was opened last. -/
structure Ready (gateway : Gateway σ) (past : List Milestone) (kept : Option Holdings)
    (world : World (Client (σ × List Remark))) : Prop where
  holds : world.backend.Holds (session past)
  settled : gateway.recorded.Settled world.backend
  recalls : ∀ held, kept = some held → ∃ account since older,
    gateway.recorded.Recalls past account since older ∧ account.holdings = held

variable {past : List Milestone} {kept : Option Holdings}

theorem Ready.opened (ready : gateway.Ready past kept world) {opened : Opened}
    {after : World (Client (σ × List Remark))} (holds : after.backend.Holds (some opened))
    (settled : gateway.recorded.Settled after.backend) :
    gateway.Ready (.opened opened :: past) kept after where
  holds := holds
  settled := settled
  recalls held there := by
    obtain ⟨account, since, older, recalls, same⟩ := ready.recalls held there
    exact ⟨account, opened :: since, older, ⟨by rw [recalls.past_eq]; rfl, recalls.isAccount⟩, same⟩

/-- A deed opens a session or leaves everything as it is. -/
theorem Proper.opens_or_stays {held next : Option Opened} {deed : Deed} {said : List Remark}
    {result : Except Fault Unit} (proper : gateway.recorded.Proper held ⟨deed, said, result⟩ next) :
    (∃ user opened, deed = .opens user ∧ result = .ok () ∧ next = some opened ∧
      gateway.recorded.Opening user held said (.ok ()) (some opened)) ∨ next = held := by
  cases proper with
  | @opens user _ _ _ _ opening =>
      cases opening with
      | @opened id request response asks typed opens =>
          exact .inl ⟨user, ⟨id, user⟩, rfl, rfl, rfl, .opened asks typed opens⟩
      | failed => exact .inr rfl
      | garbled => exact .inr rfl
      | unasked => exact .inr rfl
  | runs => exact .inr rfl
  | checked => exact .inr rfl
  | unchecked => exact .inr rfl
  | closed => exact .inr rfl

theorem userIn_eq (connected : engine.backend = some gateway.recorded.backend)
    (holds : world.backend.Holds held) : engine.userIn world = held.map (·.user) := by
  unfold Engine.userIn
  rw [connected]
  exact holds.2

theorem tells_holdings (connected : engine.backend = some gateway.recorded.backend)
    (lifetime : Int) (ready : gateway.Ready past kept world) (fresh : Bool) :
    let out := engine.holdings lifetime fresh kept world
    ∃ said next, out.2.2.said = world.said ++ said ∧
      gateway.recorded.Tells lifetime past world.clock fresh said out.1 next ∧
      gateway.Ready next out.2.1 out.2.2 := by
  have looking := engine.looking lifetime fresh kept world
  obtain ⟨said, said_eq, fetching, holds, settled⟩ :=
    fetching_assets connected ready.settled ready.holds
  have user_eq := userIn_eq connected ready.holds
  have left : ∀ held, Holdings.left lifetime world.clock fresh kept = some held →
      ∃ account since older,
        gateway.recorded.Recalls past account since older ∧ account.holdings = held :=
    fun held there => ready.recalls held (Holdings.left_eq_some there).1
  generalize engine.holdings lifetime fresh kept world = out at looking
  cases looking with
  | @given held wanted there =>
      obtain ⟨same, recent⟩ := Holdings.left_eq_some there
      obtain ⟨account, since, older, recalls, rfl⟩ := ready.recalls held same
      have recent : world.clock - 1000 * account.holdings.taken ≤ lifetime := by
        simpa [Holdings.isStale] using recent wanted
      exact ⟨[], past, (List.append_nil _).symm, .kept wanted recalls recent, same ▸ ready⟩
  | @reported report after due asked made =>
      subst asked
      rw [made.fetched] at said_eq fetching holds settled
      have totals := made.totals
      rw [user_eq] at totals
      have isAccount : gateway.recorded.IsAccountOf
          ⟨said, report.assets, report.time, report.holdings⟩ (session past) := ⟨fetching, totals⟩
      refine ⟨said, _, said_eq, .reported isAccount, holds, settled, ?_⟩
      rintro held ⟨⟩
      exact ⟨_, [], past, ⟨rfl, isAccount⟩, rfl⟩
  | unavailable due failed =>
      rw [failed] at said_eq fetching holds settled
      rw [user_eq]
      exact ⟨said, past, said_eq, .unavailable fetching, holds, settled, left⟩
  | unpriced due fetched member odd =>
      rw [fetched] at said_eq fetching holds settled
      exact ⟨said, past, said_eq, .unpriced fetching member odd, holds, settled, left⟩

/-! ## A history -/

theorem chronicle_of_ready (connected : engine.backend = some gateway.recorded.backend)
    (lifetime : Int) (ready : gateway.Ready past kept world) (occasions : List Occasion) :
    let out := gateway.recorded.attend engine lifetime occasions kept world
    ∃ last, gateway.recorded.Chronicle lifetime past out.1 last ∧
      gateway.Ready last out.2.1 out.2.2 := by
  induction occasions generalizing past kept world with
  | nil => exact ⟨past, .done, ready⟩
  | cons occasion rest ih =>
      cases occasion with
      | does deed =>
          obtain ⟨said, next, takes⟩ := takes_act connected ready.settled ready.holds deed
          have proper := takes.proper
          unfold attend
          dsimp only
          rw [takes.said_eq, List.drop_left]
          rcases proper.opens_or_stays with ⟨user, opened, rfl, done, rfl, opening⟩ | rfl
          · obtain ⟨last, chronicle, ready⟩ := ih (ready.opened takes.holds takes.settled)
            rw [done]
            exact ⟨last, .opened opening chronicle, ready⟩
          · obtain ⟨last, chronicle, ready⟩ := ih ⟨takes.holds, takes.settled, ready.recalls⟩
            exact ⟨last, .did proper chronicle, ready⟩
      | waits milliseconds =>
          have ready : gateway.Ready past kept (world.advance milliseconds) :=
            ⟨ready.holds, ready.settled, ready.recalls⟩
          obtain ⟨last, chronicle, ready⟩ := ih ready
          exact ⟨last, .waited chronicle, ready⟩
      | looks fresh =>
          obtain ⟨said, next, said_eq, tells, ready⟩ :=
            tells_holdings connected lifetime ready fresh
          obtain ⟨last, chronicle, ready⟩ := ih ready
          refine ⟨last, ?_, ready⟩
          unfold attend
          dsimp only
          rw [said_eq, List.drop_left]
          exact .looked tells chronicle

/-- Whose holdings are given, whatever is done with the gateway before and in between; and whose a
statement gives that is asked for then. -/
theorem accounts_attend (connected : engine.backend = some gateway.recorded.backend)
    (lifetime clock : Int) (transport : σ) (occasions : List Occasion) :
    let out := gateway.recorded.attend engine lifetime occasions none
      (World.fresh clock (stranger (transport, [])))
    ∃ last, gateway.recorded.Chronicle lifetime [] out.1 last ∧
      ∀ fresh kept holdings,
        (engine.holdings lifetime fresh out.2.1 out.2.2).1 = .ok (.holds holdings kept) →
        (kept = true → ∀ opened older, last ≠ .opened opened :: older) →
        ∃ account opened, gateway.recorded.IsAccountOf account (some opened) ∧
          account.holdings = holdings ∧ holdings.user = some opened.user ∧
          out.2.2.backend.session = some opened.id ∧ out.2.2.backend.user = some opened.user := by
  have ready : gateway.Ready [] none (World.fresh clock (stranger (transport, []))) := by
    refine ⟨⟨rfl, rfl⟩, settled_stranger _ _, ?_⟩
    rintro held ⟨⟩
  obtain ⟨last, chronicle, ready⟩ := chronicle_of_ready connected lifetime ready occasions
  refine ⟨last, chronicle, ?_⟩
  intro fresh kept holdings given unchanged
  obtain ⟨said, next, _, tells, _⟩ := tells_holdings connected lifetime ready fresh
  rw [given] at tells
  obtain ⟨account, opened, isAccount, same, isOpen, named⟩ := tells.isAccountOf_session unchanged
  have holds := ready.holds
  rw [isOpen] at isAccount holds
  exact ⟨account, opened, isAccount, same, named, holds⟩

/-! ## Two users -/

/-- A gateway that opens every session that it is asked for, and reports that the user has five
dollars. -/
def generous : Gateway Unit := Sample.gateway 200
  "\x7b\"sessionId\": \"s\", \"assets\": [\x7b\"symbol\": \"USDC\", \"balance\": \"5\"\x7d]\x7d"

/-- Two users look at their holdings, one after the other. -/
def twoUsers : List Entry × Option Holdings × World (Client (Unit × List Remark)) :=
  generous.recorded.attend (Sample.engineOf generous.recorded) 30000
    [.does (.opens "0xA"), .looks false, .does (.opens "0xB"), .looks false] none
    (World.fresh 0 (stranger ((), [])))

theorem accounts_twoUsers :
    let answer := (Sample.engineOf generous.recorded).holdings 30000 true twoUsers.2.1 twoUsers.2.2
    (Sample.engineOf generous.recorded).backend = some generous.recorded.backend ∧
      (∃ last, generous.recorded.Chronicle 30000 [] twoUsers.1 last) ∧
      (answer.1.toOption.bind (·.holdings?)).isSome = true ∧
      ∀ holdings, answer.1 = .ok (.holds holdings false) → holdings.user = some "0xB" := by
  have connected :
      (Sample.engineOf generous.recorded).backend = some generous.recorded.backend := rfl
  have accounts := accounts_attend connected 30000 0 ()
    [.does (.opens "0xA"), .looks false, .does (.opens "0xB"), .looks false]
  change ∃ last, generous.recorded.Chronicle 30000 [] twoUsers.1 last ∧ _ at accounts
  have present : twoUsers.2.2.backend.user = some "0xB" := by decide +kernel
  have answered : (((Sample.engineOf generous.recorded).holdings 30000 true twoUsers.2.1
      twoUsers.2.2).1.toOption.bind (·.holdings?)).isSome = true := by decide +kernel
  obtain ⟨last, chronicle, gives⟩ := accounts
  refine ⟨connected, ⟨last, chronicle⟩, answered, ?_⟩
  intro holdings given
  obtain ⟨account, opened, _, _, named, _, isOpen⟩ := gives true false holdings given (by rintro ⟨⟩)
  rw [named, ← isOpen]
  exact present

/-- What is kept is given to the user of another session. -/
theorem account_of_another :
    (twoUsers.1.getLast?.bind (·.holdings?)).map (·.user) = some (some "0xA") ∧
      twoUsers.2.2.backend.user = some "0xB" := by
  decide +kernel

end Gateway

end ChainFlow
