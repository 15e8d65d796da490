import ChainFlow.Proofs.World.Touch

/-!
# Asking a backend once

Quoting and performing a step consult the backend in the same way: they ask whether it is live and, if
it is, make one request of it. `Inquiry` says what a request comes to: nothing happens if it cannot be
written down, and otherwise one call is sent and answered. `Follows` says of a computation that it does
to the world what another one does, and after that only what needs no backend.
-/

namespace ChainFlow

variable {σ : Type}

/-- The calls that a request becomes, none if it cannot be written down. -/
def requested (purpose : Purpose) (user : Option String) (request : Except Fault Request) :
    List Call :=
  match request.bind (·.toCall purpose (user.getD "")) with
  | .ok call => [call]
  | .error _ => []

theorem requested_eq_singleton {purpose : Purpose} {user : Option String}
    {request : Except Fault Request} {call : Call} (written : requested purpose user request = [call]) :
    ∃ own payload, request = .ok own ∧ own.payload (user.getD "") = .ok payload ∧
      call = ⟨.on purpose own.operation, payload⟩ := by
  unfold requested at written
  cases request with
  | error fault => cases written
  | ok own =>
      simp only [Except.bind, Request.toCall] at written
      cases built : own.payload (user.getD "") with
      | error fault =>
          rw [built] at written
          cases written
      | ok payload =>
          rw [built] at written
          cases written
          exact ⟨own, payload, rfl, built, rfl⟩

theorem eq_singleton_of_mem_requested {purpose : Purpose} {user : Option String}
    {request : Except Fault Request} {call : Call} (member : call ∈ requested purpose user request) :
    requested purpose user request = [call] := by
  unfold requested at member ⊢
  cases written : request.bind (·.toCall purpose (user.getD "")) with
  | error fault =>
      rw [written] at member
      cases member
  | ok own =>
      rw [written] at member
      rw [List.mem_singleton.mp member]

theorem log_calls (world : World σ) (event : Event) :
    (world.log event).calls = world.calls ++ match event with
      | .sent call => [call]
      | _ => [] := by
  simp only [World.calls, World.log, List.filterMap_append, List.filterMap_cons, List.filterMap_nil]
  cases event <;> rfl

theorem log_backend (world : World σ) (event : Event) :
    (world.log event).backend = world.backend := rfl

theorem Local.calls_eq {before after : World σ} (move : Local before after) :
    after.calls = before.calls ∧ after.backend = before.backend := by
  cases move with
  | drew => exact ⟨rfl, rfl⟩
  | issued => exact ⟨rfl, rfl⟩
  | waited milliseconds =>
      refine ⟨?_, rfl⟩
      unfold World.pause
      rw [log_calls, List.append_nil]
      rfl

theorem calls_eq_of_local {before after : World σ}
    (moves : Relation.ReflTransGen Local before after) :
    after.calls = before.calls ∧ after.backend = before.backend := by
  induction moves with
  | refl => exact ⟨rfl, rfl⟩
  | tail _ move ih => exact ⟨move.calls_eq.1.trans ih.1, move.calls_eq.2.trans ih.2⟩

namespace Act

variable {α β : Type}

/-- A computation that leaves the world as a function says, but for what needs no backend. -/
def Follows (first : World σ → World σ) (act : Act σ α) : Prop :=
  ∀ world, Relation.ReflTransGen Local (first world) (act.runIn world).2

variable {first : World σ → World σ} {act : Act σ α} {next : α → Act σ β}

theorem follows_self (act : Act σ α) : Follows (fun world => (act.runIn world).2) act :=
  fun _ => .refl

theorem follows_bind (follows : Follows first act) (inside : ∀ value, Within Local (next value)) :
    Follows first (act >>= next) := by
  intro world
  have moves := follows world
  rcases ran : act.runIn world with ⟨fault | value, after⟩
  · rw [ran] at moves
    rwa [runIn_bind_error ran]
  · rw [ran] at moves
    rw [runIn_bind_ok ran]
    exact moves.trans (inside value after)

theorem follows_attempt (follows : Follows first act) : Follows first (attempt act) := by
  intro world
  rw [runIn_attempt]
  exact follows world

end Act

namespace Engine

open Act

variable {α : Type} (engine : Engine σ)

/-! ## One request -/

/-- The user of the session that is open. -/
def userIn (world : World σ) : Option String := engine.backend.bind (·.user world.backend)

/-- Makes a request, if it can be built. -/
def inquire (purpose : Purpose) (request : Except Fault Request) : Act σ Json := do
  engine.ask purpose (← Act.ofExcept request)

/-- The world once a backend has answered a call. -/
def answeredBy (backend : Backend σ) (call : Call) (world : World σ) : World σ :=
  { (world.log (.sent call)).advance (backend.answer call world.backend).1.elapsed with
    backend := (backend.answer call world.backend).2 }

inductive Inquiry (backend : Backend σ) (purpose : Purpose) (request : Except Fault Request)
    (world : World σ) : Except Fault Json × World σ → Prop
  | unwritten (fault : Fault) : requested purpose (engine.userIn world) request = [] →
      Inquiry backend purpose request world (.error fault, world)
  | answered (call : Call) : requested purpose (engine.userIn world) request = [call] →
      Inquiry backend purpose request world
        ((backend.answer call world.backend).1.answer, answeredBy backend call world)

theorem runIn_send {backend : Backend σ} (connected : engine.backend = some backend) (call : Call)
    (world : World σ) : (engine.send call).runIn world =
      ((backend.answer call world.backend).1.answer, answeredBy backend call world) := by
  simp only [send, connected, runIn, answeredBy]
  cases (backend.answer call world.backend).1.answer <;> rfl

theorem runIn_inquire (purpose : Purpose) (request : Except Fault Request) (world : World σ) :
    (engine.inquire purpose request).runIn world =
      match request.bind (·.toCall purpose ((engine.userIn world).getD "")) with
      | .ok call => (engine.send call).runIn world
      | .error fault => (.error fault, world) := by
  cases request with
  | error fault => rfl
  | ok request =>
      unfold inquire
      rw [runIn_bind_ok (runIn_ofExcept _ world)]
      simp only [Except.bind, ask, userIn, runIn]
      cases request.toCall purpose ((engine.backend.bind (·.user world.backend)).getD "") <;> rfl

theorem inquiry {backend : Backend σ} (connected : engine.backend = some backend)
    (purpose : Purpose) (request : Except Fault Request) (world : World σ) :
    engine.Inquiry backend purpose request world ((engine.inquire purpose request).runIn world) := by
  rw [runIn_inquire]
  cases written : request.bind (·.toCall purpose ((engine.userIn world).getD "")) with
  | error fault => exact .unwritten fault (by simp only [requested, written])
  | ok call =>
      dsimp only
      rw [engine.runIn_send connected]
      exact .answered call (by simp only [requested, written])

variable {engine}

theorem Inquiry.calls_eq {backend : Backend σ} {purpose : Purpose} {request : Except Fault Request}
    {world : World σ} {result : Except Fault Json × World σ}
    (inquiry : engine.Inquiry backend purpose request world result) :
    result.2.calls = world.calls ++ requested purpose (engine.userIn world) request := by
  cases inquiry with
  | unwritten _ unwritten => rw [unwritten, List.append_nil]
  | answered call written =>
      rw [written]
      exact log_calls world (.sent call)

theorem Inquiry.issued_eq {backend : Backend σ} {purpose : Purpose} {request : Except Fault Request}
    {world : World σ} {result : Except Fault Json × World σ}
    (inquiry : engine.Inquiry backend purpose request world result) :
    result.2.issued = world.issued := by
  cases inquiry <;> rfl

/-! ## Asking whether the backend is live -/

variable (engine)

theorem probe_calls (world : World σ) : (engine.probe world).2.calls = world.calls := by
  rw [World.calls, probe_journal, World.calls]

theorem probe_issued (world : World σ) : (engine.probe world).2.issued = world.issued := by
  unfold probe
  split <;> rfl

theorem runIn_isLive_bind (next : Bool → Act σ α) (world : World σ) :
    (engine.isLive >>= next).runIn world =
      (next (engine.probe world).1).runIn (engine.probe world).2 :=
  runIn_bind_ok rfl next

theorem connected_of_live {world : World σ} (live : (engine.probe world).1 = true) :
    ∃ backend, engine.backend = some backend := by
  unfold probe at live
  cases connected : engine.backend with
  | none =>
      rw [connected] at live
      cases live
  | some backend => exact ⟨backend, rfl⟩

/-- The world once the backend has been consulted: if it is live, a request is made of it. -/
def consulted (purpose : Purpose) (request : Except Fault Request) (world : World σ) : World σ :=
  let (live, probed) := engine.probe world
  if live then ((engine.inquire purpose request).runIn probed).2 else probed

theorem follows_isLive_bind {purpose : Purpose} {request : Except Fault Request}
    {next : Bool → Act σ α}
    (asks : Follows (fun world => ((engine.inquire purpose request).runIn world).2) (next true))
    (inside : Within Local (next false)) :
    Follows (engine.consulted purpose request) (engine.isLive >>= next) := by
  intro world
  rw [runIn_isLive_bind]
  unfold consulted
  rcases engine.probe world with ⟨_ | _, probed⟩
  · exact inside probed
  · exact asks probed

theorem consulted_calls (purpose : Purpose) (request : Except Fault Request) (world : World σ) :
    (engine.consulted purpose request world).calls = world.calls ++
      if (engine.probe world).1 then
        requested purpose (engine.userIn (engine.probe world).2) request
      else [] := by
  have same := engine.probe_calls world
  unfold consulted
  rcases probed : engine.probe world with ⟨live, after⟩
  rw [probed] at same
  cases live with
  | false => simpa using same
  | true =>
      obtain ⟨backend, connected⟩ := engine.connected_of_live (by rw [probed])
      have asked := (engine.inquiry connected purpose request after).calls_eq
      simp only [reduceIte]
      rw [asked, same]

end Engine

end ChainFlow
