import ChainFlow.Proofs.Decimal.Bounded

/-!
# Adding infinities

Beside finite numbers, infinities and quiet values that are no number can be added. A sum of two is a
value of this kind again, unless they are infinities of opposite signs (`Opposes`), which have no sum.
-/

namespace ChainFlow.Decimal

/-- A finite number that is not too large, or an infinity. -/
inductive IsExtended (power : Int) : Decimal → Prop
  | within {x : Decimal} (within : IsWithin power x) : IsExtended power x
  | infinite (negative : Bool) : IsExtended power (.infinite negative)

theorem IsExtended.mono {power greater : Int} {x : Decimal} (extended : IsExtended power x)
    (le : power ≤ greater) : IsExtended greater x := by
  cases extended with
  | within within => exact .within (within.mono le)
  | infinite negative => exact .infinite negative

theorem IsExtended.lt?_self {power : Int} {x : Decimal} (extended : IsExtended power x) :
    (x.lt? x).isNone = false := by
  cases extended with
  | within within => exact within.lt?_self
  | infinite negative => rfl

/-- Infinities of opposite signs. -/
def Opposes (a b : Decimal) : Prop := ∃ negative, a = .infinite negative ∧ b = .infinite !negative

theorem not_opposes_finite (negative : Bool) (coefficient : Nat) (exponent : Int) (b : Decimal) :
    ¬ Opposes (.finite negative coefficient exponent) b := by
  rintro ⟨_, same, _⟩
  cases same

theorem IsWithin.not_opposes {power : Int} {a : Decimal} (within : IsWithin power a) (b : Decimal) :
    ¬ Opposes a b := by
  cases within
  exact not_opposes_finite _ _ _ b

theorem add_of_opposes {a b : Decimal} (opposed : Opposes a b) : a.add b = .error .invalid := by
  obtain ⟨negative, rfl, rfl⟩ := opposed
  cases negative <;> rfl

theorem add_finite_infinite (negative : Bool) (coefficient : Nat) (exponent : Int) (other : Bool) :
    (Decimal.finite negative coefficient exponent).add (.infinite other) = .ok (.infinite other) := by
  simp [add, nan?]

variable {power : Int} {a b : Decimal}

/-- What is added to a number opposes what the sum opposes. -/
theorem add_of_not_opposes (least : minExponent + 28 ≤ power) (most : power < maxAdjusted)
    (first : IsExtended power a) (second : IsExtended (power - 29) b) (apart : ¬ Opposes a b) :
    ∃ sum, a.add b = .ok sum ∧ IsExtended power sum ∧
      ∀ c, Opposes sum c ↔ Opposes a c ∨ Opposes b c := by
  cases first with
  | within first =>
      cases second with
      | within second =>
          obtain ⟨sum, added, bounded⟩ := isWithin_add least most first second
          refine ⟨sum, added, .within bounded, fun c => ?_⟩
          simp [bounded.not_opposes, first.not_opposes, second.not_opposes]
      | infinite negative =>
          obtain ⟨own, _⟩ := first
          refine ⟨_, add_finite_infinite own _ _ negative, .infinite negative, fun c => ?_⟩
          simp [not_opposes_finite]
  | infinite negative =>
      cases second with
      | within second =>
          obtain ⟨own, _⟩ := second
          refine ⟨.infinite negative, rfl, .infinite negative, fun c => ?_⟩
          simp [not_opposes_finite]
      | infinite other =>
          have same : other = negative := by
            by_contra differ
            exact apart ⟨negative, rfl, by rw [Bool.eq_not_of_ne differ]⟩
          rw [same]
          exact ⟨.infinite negative, by cases negative <;> rfl, .infinite negative, by simp⟩

/-- A number that adds up with others to a number again, or to none. -/
inductive IsQuiet (power : Int) : Decimal → Prop
  | extended {x : Decimal} (extended : IsExtended power x) : IsQuiet power x
  | nan (negative : Bool) (payload : Nat) : IsQuiet power (.nan negative false payload)

theorem IsQuiet.mono {greater : Int} {x : Decimal} (quiet : IsQuiet power x) (le : power ≤ greater) :
    IsQuiet greater x := by
  cases quiet with
  | extended extended => exact .extended (extended.mono le)
  | nan negative payload => exact .nan negative payload

theorem add_of_isQuiet (least : minExponent + 28 ≤ power) (most : power < maxAdjusted)
    (first : IsQuiet power a) (second : IsQuiet (power - 29) b) :
    a.add b = .error .invalid ∨ ∃ sum, a.add b = .ok sum ∧ IsQuiet power sum := by
  cases first with
  | nan negative payload =>
      refine .inr ⟨quiet negative payload, ?_, .nan negative _⟩
      obtain (⟨⟨_⟩⟩ | _) | _ := second <;> rfl
  | extended first =>
      cases second with
      | nan negative payload =>
          refine .inr ⟨quiet negative payload, ?_, .nan negative _⟩
          obtain ⟨⟨_⟩⟩ | _ := first <;> rfl
      | extended second =>
          by_cases opposed : Opposes a b
          · exact .inl (add_of_opposes opposed)
          · obtain ⟨sum, added, extended, _⟩ := add_of_not_opposes least most first second opposed
            exact .inr ⟨sum, added, .extended extended⟩

end ChainFlow.Decimal
