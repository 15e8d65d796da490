import ChainFlow.Proofs.Decimal.Written

/-!
# Finite results

A sum of finite numbers is finite, and one with a quiet value that is no number is not. Neither reading
a number nor rounding it to a place can overflow.
-/

namespace ChainFlow.Decimal

def IsFinite (x : Decimal) : Prop :=
  ∃ negative coefficient exponent, x = .finite negative coefficient exponent

theorem not_isFinite_nan (negative signaling : Bool) (payload : Nat) :
    ¬(Decimal.nan negative signaling payload).IsFinite := by
  rintro ⟨_, _, _, same⟩
  cases same

/-! ## Sums -/

theorem isFinite_of_fit {negative : Bool} {coefficient : Nat} {exponent : Int} {y : Decimal}
    (done : fit negative coefficient exponent = .ok y) : y.IsFinite := by
  unfold fit at done
  dsimp only at done
  repeat' split at done
  all_goals
    cases done
    try exact ⟨_, _, _, rfl⟩

theorem isFinite_add {x y sum : Decimal} (first : x.IsFinite) (second : y.IsFinite)
    (done : x.add y = .ok sum) : sum.IsFinite := by
  obtain ⟨negative₁, coefficient₁, exponent₁, rfl⟩ := first
  obtain ⟨negative₂, coefficient₂, exponent₂, rfl⟩ := second
  have zero : ∀ {low negative coefficient exponent},
      addZero low negative coefficient exponent = .ok sum → sum.IsFinite := by
    intro low negative coefficient exponent added
    unfold addZero at added
    dsimp only at added
    split at added <;> exact isFinite_of_fit added
  have aligned : ∀ {n₁ c₁ e₁ n₂ c₂ e₂}, addAligned n₁ c₁ e₁ n₂ c₂ e₂ = .ok sum → sum.IsFinite :=
    fun added => isFinite_of_fit added
  rcases coefficient₁ with _ | rest₁
  · rcases coefficient₂ with _ | rest₂
    · exact isFinite_of_fit done
    · exact zero done
  · rcases coefficient₂ with _ | rest₂
    · exact zero done
    · simp only [add, nan?] at done
      split at done <;> exact aligned done

theorem add_nan {x sum : Decimal} {negative : Bool} {payload : Nat} (finite : x.IsFinite)
    (done : x.add (.nan negative false payload) = .ok sum) : ¬sum.IsFinite := by
  obtain ⟨_, _, _, rfl⟩ := finite
  cases done
  exact not_isFinite_nan _ _ _

/-! ## Signals -/

theorem bounded_ne_overflow (negative : Bool) (coefficient : Nat) (exponent : Int) :
    bounded negative coefficient exponent ≠ .error .overflow := by
  rcases bounded_eq negative coefficient exponent with same | same <;> rw [same] <;> nofun

theorem unsigned_ne_overflow (negative : Bool) (text : List Char) :
    unsigned negative text ≠ .error .overflow := by
  unfold unsigned
  split
  · nofun
  · split
    · split <;> nofun
    · split <;> nofun
    · dsimp only
      generalize takeDigits text = taken
      split
      all_goals
        split
        · nofun
        · split
          · exact bounded_ne_overflow _ _ _
          · nofun

theorem parse_ne_overflow (text : List Char) : parse text ≠ .error .overflow := by
  unfold parse
  split
  · nofun
  · exact unsigned_ne_overflow _ _

theorem quantize_ne_overflow (rounding : Rounding) (x : Decimal) (target : Int) :
    quantize rounding x target ≠ .error .overflow := by
  unfold quantize
  dsimp only
  repeat' split
  all_goals nofun

end ChainFlow.Decimal
