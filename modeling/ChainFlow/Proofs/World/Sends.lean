import ChainFlow.Proofs.World.Inquiry

/-!
# Calls to a backend that stays live

`Backend.StaysLive` says of a backend in a state that it is live for a user, and still is after any
calls for a purpose. In such a world the calls of a request depend on what is asked only, not on what
has been answered before. `Backend.LiveThroughout` leaves the user open.
-/

namespace ChainFlow

variable {σ : Type}

/-- The states that a backend may come to by questions and by calls for a purpose. -/
inductive Backend.Reaches (backend : Backend σ) (purpose : Purpose) (start : σ) : σ → Prop
  | start : Reaches backend purpose start start
  | probed {state : σ} : Reaches backend purpose start state →
      Reaches backend purpose start (backend.isLive state).2
  | answered {state : σ} (operation : Operation) (payload : Json) :
      Reaches backend purpose start state →
      Reaches backend purpose start (backend.answer ⟨.on purpose operation, payload⟩ state).2

/-- A backend that is live for a user, and stays so whatever it is asked for a purpose. -/
structure Backend.StaysLive (backend : Backend σ) (purpose : Purpose) (user : Option String)
    (start : σ) : Prop where
  live : ∀ state, backend.Reaches purpose start state → (backend.isLive state).1 = true
  user_eq : ∀ state, backend.Reaches purpose start state → backend.user state = user

/-- A backend that is live and stays so whatever it is asked for a purpose, for whichever user. -/
def Backend.LiveThroughout (backend : Backend σ) (purpose : Purpose) (start : σ) : Prop :=
  ∀ state, backend.Reaches purpose start state → (backend.isLive state).1 = true

/-- An engine whose backend is live for a user in some states, and stays in them whatever it is asked
for a purpose. -/
structure Engine.Steady (engine : Engine σ) (purpose : Purpose) (user : Option String)
    (states : σ → Prop) : Prop where
  connected : ∃ backend, engine.backend = some backend ∧
    ∀ state, states state → (backend.isLive state).1 = true ∧ states (backend.isLive state).2 ∧
      backend.user state = user ∧ ∀ operation payload,
        states (backend.answer ⟨.on purpose operation, payload⟩ state).2

/-- An engine whose backend is live in some states, for whichever user, and stays in them whatever it is
asked for a purpose. -/
structure Engine.Stays (engine : Engine σ) (purpose : Purpose) (states : σ → Prop) : Prop where
  connected : ∃ backend, engine.backend = some backend ∧
    ∀ state, states state → (backend.isLive state).1 = true ∧ states (backend.isLive state).2 ∧
      ∀ operation payload, states (backend.answer ⟨.on purpose operation, payload⟩ state).2

namespace Engine

theorem steady_of_staysLive {engine : Engine σ} {backend : Backend σ} {purpose : Purpose}
    {user : Option String} {start : σ} (connected : engine.backend = some backend)
    (stays : backend.StaysLive purpose user start) :
    engine.Steady purpose user (backend.Reaches purpose start) :=
  ⟨backend, connected, fun state reached => ⟨stays.live state reached, .probed reached,
    stays.user_eq state reached, fun operation payload => .answered operation payload reached⟩⟩

theorem stays_of_live {engine : Engine σ} {backend : Backend σ} {purpose : Purpose} {start : σ}
    (connected : engine.backend = some backend) (live : backend.LiveThroughout purpose start) :
    engine.Stays purpose (backend.Reaches purpose start) :=
  ⟨backend, connected, fun state reached => ⟨live state reached, .probed reached,
    fun operation payload => .answered operation payload reached⟩⟩

variable {engine : Engine σ} {purpose : Purpose} {user : Option String} {states : σ → Prop}

theorem Steady.stays (steady : engine.Steady purpose user states) : engine.Stays purpose states := by
  obtain ⟨backend, connected, stays⟩ := steady.connected
  refine ⟨backend, connected, fun state here => ?_⟩
  obtain ⟨live, there, _, answered⟩ := stays state here
  exact ⟨live, there, answered⟩

theorem probe_of_stays (stays : engine.Stays purpose states) {world : World σ}
    (here : states world.backend) : ∃ after, engine.probe world = (true, after) ∧
      states after.backend ∧ after.calls = world.calls := by
  obtain ⟨backend, connected, remains⟩ := stays.connected
  obtain ⟨live, there, _⟩ := remains world.backend here
  refine ⟨{ world with backend := (backend.isLive world.backend).2 }, ?_, there, rfl⟩
  simp only [probe, connected, live]

theorem Inquiry.stays (stays : engine.Stays purpose states) {backend : Backend σ}
    (connected : engine.backend = some backend) {request : Except Fault Request} {world : World σ}
    {result : Except Fault Json × World σ}
    (inquiry : engine.Inquiry backend purpose request world result) (here : states world.backend) :
    states result.2.backend := by
  obtain ⟨same, isSame, remains⟩ := stays.connected
  obtain rfl : same = backend := Option.some.inj (isSame.symm.trans connected)
  obtain ⟨_, _, answered⟩ := remains world.backend here
  cases inquiry with
  | unwritten _ _ => exact here
  | answered call written =>
      obtain ⟨own, payload, _, _, rfl⟩ := requested_eq_singleton written
      exact answered own.operation payload

theorem userIn_of_steady (steady : engine.Steady purpose user states) {world : World σ}
    (here : states world.backend) : engine.userIn world = user := by
  obtain ⟨backend, connected, remains⟩ := steady.connected
  simp only [userIn, connected, Option.bind_some, (remains world.backend here).2.2.1]

end Engine

end ChainFlow
