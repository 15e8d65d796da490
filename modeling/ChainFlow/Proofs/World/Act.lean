import ChainFlow.World
import Mathlib.Logic.Relation

/-!
# Computations in a world

`Act.Yields` says what every value of a computation is like, `Act.Succeeds` that it always comes to
one, and `Act.Within` that it changes the world only by moves of a given kind, any number of them. All
are closed under the ways in which computations are put together, so that a computation is dealt with
part by part.

Two computations match (`Act.Matches`) if, in worlds that are related, they come to the same and leave
related worlds behind. So two engines are compared part by part as well.
-/

namespace ChainFlow.Act

variable {σ α β : Type}

/-! ## What a computation comes to -/

theorem runIn_ofExcept (result : Except Fault α) (world : World σ) :
    (ofExcept result : Act σ α).runIn world = (result, world) := by
  cases result <;> rfl

theorem runIn_bind_ok {act : Act σ α} {world after : World σ} {value : α}
    (ran : act.runIn world = (.ok value, after)) (next : α → Act σ β) :
    (act >>= next).runIn world = (next value).runIn after := by
  change runIn (EStateM.bind act next) world = _
  unfold runIn EStateM.bind at *
  cases result : act world with
  | ok value' world' =>
      rw [result] at ran
      cases ran
      rfl
  | error fault world' =>
      rw [result] at ran
      cases ran

theorem runIn_bind_error {act : Act σ α} {world after : World σ} {fault : Fault}
    (ran : act.runIn world = (.error fault, after)) (next : α → Act σ β) :
    (act >>= next).runIn world = (.error fault, after) := by
  change runIn (EStateM.bind act next) world = _
  unfold runIn EStateM.bind at *
  cases result : act world with
  | ok value' world' =>
      rw [result] at ran
      cases ran
  | error fault world' =>
      rw [result] at ran
      cases ran
      rfl

theorem runIn_attempt (act : Act σ α) (world : World σ) :
    (attempt act).runIn world = (.ok (act.runIn world).1, (act.runIn world).2) := by
  simp only [attempt, runIn]
  cases act world <;> rfl

/-! ## Values -/

def Yields (post : α → Prop) (act : Act σ α) : Prop :=
  ∀ world value, (act.runIn world).1 = .ok value → post value

theorem yields_pure {post : α → Prop} {value : α} (holds : post value) :
    Yields post (pure value : Act σ α) := by
  rintro world value ⟨⟩
  exact holds

theorem yields_throw {post : α → Prop} (fault : Fault) : Yields post (throw fault : Act σ α) := by
  rintro world value ⟨⟩

theorem yields_ofExcept {post : α → Prop} {result : Except Fault α}
    (holds : ∀ value, result = .ok value → post value) :
    Yields post (ofExcept result : Act σ α) := by
  intro world value done
  rw [runIn_ofExcept] at done
  exact holds value done

theorem yields_bind {pre : α → Prop} {post : β → Prop} {act : Act σ α} {next : α → Act σ β}
    (first : Yields pre act) (then_ : ∀ value, pre value → Yields post (next value)) :
    Yields post (act >>= next) := by
  intro world result done
  rcases ran : act.runIn world with ⟨_ | value, after⟩
  · rw [runIn_bind_error ran] at done
    cases done
  · rw [runIn_bind_ok ran] at done
    exact then_ value (first world value (by rw [ran])) after result done

theorem yields_bind_last {post : β → Prop} {act : Act σ α} {next : α → Act σ β}
    (last : ∀ value, Yields post (next value)) : Yields post (act >>= next) := by
  have anything : Yields (fun _ => True) act := fun _ _ _ => trivial
  exact yields_bind anything fun value _ => last value

theorem yields_ite {post : α → Prop} {condition : Prop} [Decidable condition] {first second : Act σ α}
    (holds : Yields post first) (fails : Yields post second) :
    Yields post (if condition then first else second) := by
  split
  · exact holds
  · exact fails

/-! ## Faults -/

/-- A computation that comes to a value in every world. -/
def Succeeds (act : Act σ α) : Prop := ∀ world, ∃ value, (act.runIn world).1 = .ok value

theorem succeeds_pure (value : α) : Succeeds (pure value : Act σ α) := fun _ => ⟨value, rfl⟩

theorem succeeds_ofExcept {result : Except Fault α} (done : ∃ value, result = .ok value) :
    Succeeds (ofExcept result : Act σ α) := by
  intro world
  rw [runIn_ofExcept]
  exact done

theorem succeeds_attempt (act : Act σ α) : Succeeds (attempt act) := by
  intro world
  rw [runIn_attempt]
  exact ⟨_, rfl⟩

theorem succeeds_bind_of_yields {pre : α → Prop} {act : Act σ α} {next : α → Act σ β}
    (first : Succeeds act) (yields : Yields pre act)
    (then_ : ∀ value, pre value → Succeeds (next value)) : Succeeds (act >>= next) := by
  intro world
  obtain ⟨value, done⟩ := first world
  have holds := yields world value done
  rcases ran : act.runIn world with ⟨result, after⟩
  rw [ran] at done
  obtain rfl : result = .ok value := done
  rw [runIn_bind_ok ran]
  exact then_ value holds after

theorem succeeds_bind {act : Act σ α} {next : α → Act σ β} (first : Succeeds act)
    (then_ : ∀ value, Succeeds (next value)) : Succeeds (act >>= next) := by
  have anything : Yields (fun _ => True) act := fun _ _ _ => trivial
  exact succeeds_bind_of_yields first anything fun value _ => then_ value

/-! ## Moves -/

def Within (move : World σ → World σ → Prop) (act : Act σ α) : Prop :=
  ∀ world, Relation.ReflTransGen move world (act.runIn world).2

variable {move : World σ → World σ → Prop}

theorem within_pure (value : α) : Within move (pure value : Act σ α) := fun _ => .refl

theorem within_throw (fault : Fault) : Within move (throw fault : Act σ α) := fun _ => .refl

theorem within_now : Within move (now : Act σ Int) := fun _ => .refl

theorem within_ofExcept (result : Except Fault α) : Within move (ofExcept result) := by
  intro world
  rw [runIn_ofExcept]

theorem within_bind {act : Act σ α} {next : α → Act σ β} (first : Within move act)
    (then_ : ∀ value, Within move (next value)) : Within move (act >>= next) := by
  intro world
  have before := first world
  rcases ran : act.runIn world with ⟨_ | value, after⟩
  · rw [ran] at before
    rwa [runIn_bind_error ran]
  · rw [ran] at before
    rw [runIn_bind_ok ran]
    exact before.trans (then_ value after)

theorem within_ite {condition : Prop} [Decidable condition] {first second : Act σ α}
    (holds : Within move first) (fails : Within move second) :
    Within move (if condition then first else second) := by
  split
  · exact holds
  · exact fails

theorem Within.mono {act : Act σ α} {wider : World σ → World σ → Prop} (inner : Within move act)
    (le : ∀ before after, move before after → wider before after) : Within wider act :=
  fun world => Relation.ReflTransGen.mono le _ _ (inner world)

/-! ## Computations side by side -/

section

variable {τ : Type} {related : World σ → World τ → Prop}

/-- Two computations that come to the same in worlds that are related, and leave them so. -/
def Matches (related : World σ → World τ → Prop) (act : Act σ α) (other : Act τ α) : Prop :=
  ∀ world away, related world away →
    (act.runIn world).1 = (other.runIn away).1 ∧ related (act.runIn world).2 (other.runIn away).2

theorem matches_pure (value : α) : Matches related (pure value) (pure value) :=
  fun _ _ relates => ⟨rfl, relates⟩

theorem matches_throw (fault : Fault) :
    Matches related (throw fault : Act σ α) (throw fault : Act τ α) :=
  fun _ _ relates => ⟨rfl, relates⟩

theorem matches_ofExcept (result : Except Fault α) :
    Matches related (ofExcept result) (ofExcept result) := by
  intro world away relates
  rw [runIn_ofExcept, runIn_ofExcept]
  exact ⟨rfl, relates⟩

theorem matches_bind {act : Act σ α} {other : Act τ α} {next : α → Act σ β} {then_ : α → Act τ β}
    (first : Matches related act other) (second : ∀ value, Matches related (next value) (then_ value)) :
    Matches related (act >>= next) (other >>= then_) := by
  intro world away relates
  obtain ⟨same, still⟩ := first world away relates
  rcases ran : act.runIn world with ⟨fault | value, after⟩ <;>
    rcases ran' : other.runIn away with ⟨fault' | value', after'⟩ <;> rw [ran, ran'] at same still <;>
    cases same
  · rw [runIn_bind_error ran, runIn_bind_error ran']
    exact ⟨rfl, still⟩
  · rw [runIn_bind_ok ran, runIn_bind_ok ran']
    exact second value after after' still

theorem matches_ite {condition : Prop} [Decidable condition] {first second : Act σ α}
    {first' second' : Act τ α} (holds : Matches related first first')
    (fails : Matches related second second') :
    Matches related (if condition then first else second) (if condition then first' else second') := by
  split
  · exact holds
  · exact fails

end

end ChainFlow.Act
