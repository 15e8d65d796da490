import ChainFlow.Flow.Quoting
import ChainFlow.Flow.Performing
import ChainFlow.Proofs.World.Act

/-!
# What a step may do to the world

Quoting or performing a step changes the world in few ways: it draws numbers, issues hashes, waits
for pretended transactions (all of this is `Local`), asks whether the backend is live, and sends
calls (`Touch`). What is so kept by every single change is kept by a step.
-/

namespace ChainFlow

variable {σ : Type}

/-- What a computation does to the world without the backend. -/
inductive Local : World σ → World σ → Prop
  | drew (world : World σ) : Local world { world with drawn := world.drawn + 1 }
  | issued (world : World σ) : Local world { world with issued := world.issued + 1 }
  | waited (world : World σ) (milliseconds : Int) :
      Local world (world.pause (.latency milliseconds))

/-- What a computation does to the world with the backend of an engine. -/
inductive Touch (engine : Engine σ) : World σ → World σ → Prop
  | inside {before after : World σ} : Local before after → Touch engine before after
  | probed (world : World σ) : Touch engine world (engine.probe world).2
  | asked (world : World σ) (call : Call) :
      Touch engine world ((engine.send call).runIn world).2

/-! ## What is kept -/

theorem log_journal (world : World σ) (event : Event) :
    (world.log event).journal = world.journal ++ [event] := rfl

theorem probe_journal (engine : Engine σ) (world : World σ) :
    (engine.probe world).2.journal = world.journal := by
  unfold Engine.probe
  split <;> rfl

/-- A call is in the journal as soon as there is a backend, whatever it answers. -/
theorem send_journal (engine : Engine σ) (call : Call) (world : World σ) :
    ((engine.send call).runIn world).2.journal =
      world.journal ++ if engine.backend.isSome then [.sent call] else [] := by
  unfold Engine.send Act.runIn
  cases engine.backend with
  | none => simp
  | some backend =>
      dsimp only
      cases (backend.answer call world.backend).1.answer <;> rfl

def Event.isOutside : Event → Bool
  | .sent _ => true
  | .paused (.latency _) => true
  | _ => false

theorem Local.journal {before after : World σ} (move : Local before after) :
    after.journal = before.journal ∨
      ∃ milliseconds, after.journal = before.journal ++ [.paused (.latency milliseconds)] := by
  cases move with
  | drew => exact .inl rfl
  | issued => exact .inl rfl
  | waited milliseconds => exact .inr ⟨milliseconds, rfl⟩

theorem Touch.journal {engine : Engine σ} {before after : World σ}
    (touch : Touch engine before after) :
    ∃ events, after.journal = before.journal ++ events ∧
      ∀ event ∈ events, event.isOutside = true := by
  cases touch with
  | inside move =>
      rcases move.journal with same | ⟨milliseconds, more⟩
      · exact ⟨[], by simp [same], by simp⟩
      · exact ⟨_, more, by simp [Event.isOutside]⟩
  | probed => exact ⟨[], by simp [probe_journal], by simp⟩
  | asked call =>
      refine ⟨_, send_journal engine call before, ?_⟩
      intro event member
      split at member
      · rw [List.mem_singleton.mp member]
        rfl
      · cases member

theorem journal_of_touches {engine : Engine σ} {before after : World σ}
    (touches : Relation.ReflTransGen (Touch engine) before after) :
    ∃ events, after.journal = before.journal ++ events ∧
      ∀ event ∈ events, event.isOutside = true := by
  induction touches with
  | refl => exact ⟨[], by simp, by simp⟩
  | tail _ touch ih =>
      obtain ⟨first, joined, outside⟩ := ih
      obtain ⟨second, added, more⟩ := touch.journal
      refine ⟨first ++ second, by rw [added, joined, List.append_assoc], ?_⟩
      intro event member
      exact (List.mem_append.mp member).elim (outside event) (more event)

namespace Engine

open Act

variable (engine : Engine σ)

/-! ## Local computations -/

theorem within_drawNext : Within Local engine.drawNext := fun world => .single (.drew world)

theorem within_issueHash : Within Local (issueHash : Act σ String) :=
  fun world => .single (.issued world)

theorem within_wait (milliseconds : Int) :
    Within Local (wait (.latency milliseconds) : Act σ Unit) := by
  intro world
  by_cases none : (Pause.latency milliseconds).milliseconds = 0
  · simp only [wait, runIn, if_pos none]
    exact .refl
  · simp only [wait, runIn, if_neg none]
    exact .single (.waited world milliseconds)

theorem within_seconds (range : Range) : Within Local (engine.seconds range) :=
  within_bind engine.within_drawNext fun _ => within_pure _

theorem within_estimateBridge (amount : Json) : Within Local (engine.estimateBridge amount) :=
  within_bind (within_ofExcept _) fun _ => within_bind (engine.within_seconds _) fun _ =>
    within_pure _

theorem within_estimateTransfer : Within Local engine.estimateTransfer :=
  within_bind engine.within_drawNext fun _ => within_bind (within_ofExcept _) fun _ =>
    within_bind (engine.within_seconds _) fun _ => within_pure _

theorem within_estimateCall (action : Action) : Within Local (engine.estimateCall action) := by
  unfold estimateCall
  cases callBase? action with
  | none => exact within_throw _
  | some base =>
      exact within_bind engine.within_drawNext fun _ => within_bind (within_ofExcept _) fun _ =>
        within_bind (engine.within_seconds _) fun _ => within_pure _

theorem within_pretend (chain : ChainId) : Within Local (engine.pretend chain) :=
  within_bind (within_wait _) fun _ => within_bind within_issueHash fun _ => within_pure _

theorem within_localBridge (id : String) (bridge : Bridge) (location : Location) :
    Within Local (engine.localBridge id bridge location) :=
  within_bind (engine.within_estimateBridge _) fun _ => within_pure _

theorem within_localTransfer (id : String) (location : Location) :
    Within Local (engine.localTransfer id location) :=
  within_bind engine.within_estimateTransfer fun _ => within_pure _

theorem within_localCall (id : String) (call : ContractCall) (location : Location) :
    Within Local (engine.localCall id call location) :=
  within_bind (engine.within_estimateCall _) fun _ => within_pure _

theorem within_statedSeconds (fields : Fields) (range : Range) :
    Within Local (engine.statedSeconds fields range) := by
  refine within_bind (within_ofExcept _) fun stated => ?_
  cases stated with
  | none => exact engine.within_seconds range
  | some seconds => exact within_pure _

/-! ## Computations with the backend -/

theorem within_of_local {α : Type} {act : Act σ α} (inside : Within Local act) :
    Within (Touch engine) act := inside.mono fun _ _ move => .inside move

theorem within_isLive : Within (Touch engine) engine.isLive := fun world => .single (.probed world)

theorem within_send (call : Call) : Within (Touch engine) (engine.send call) :=
  fun world => .single (.asked world call)

theorem within_ask (purpose : Purpose) (request : Request) :
    Within (Touch engine) (engine.ask purpose request) := by
  intro world
  unfold ask
  simp only [runIn]
  cases request.toCall purpose _ with
  | ok call => exact engine.within_send call world
  | error fault => exact .refl

end Engine

end ChainFlow
