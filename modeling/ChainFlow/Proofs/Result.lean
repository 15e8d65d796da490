import ChainFlow.Fault

/-!
# Results of parts

What the parts of a computation without effects came to, if it is known what the whole came to.
-/

namespace ChainFlow

theorem Except.bind_eq_ok {ε α β : Type} {first : Except ε α} {next : α → Except ε β} {result : β}
    (done : (first >>= next) = .ok result) : ∃ value, first = .ok value ∧ next value = .ok result := by
  cases first with
  | error fault => cases done
  | ok value => exact ⟨value, rfl, done⟩

theorem Except.bind_eq_error {ε α β : Type} {first : Except ε α} {next : α → Except ε β} {fault : ε}
    (failed : (first >>= next) = .error fault) :
    first = .error fault ∨ ∃ value, first = .ok value ∧ next value = .error fault := by
  cases first with
  | error other =>
      cases failed
      exact .inl rfl
  | ok value => exact .inr ⟨value, rfl, failed⟩

theorem Except.map_eq_error {ε α β : Type} {first : Except ε α} {next : α → β} {fault : ε}
    (failed : first.map next = .error fault) : first = .error fault := by
  cases first with
  | error other =>
      cases failed
      rfl
  | ok value => cases failed

theorem Except.map_eq_ok {ε α β : Type} {first : Except ε α} {next : α → β} {result : β}
    (done : first.map next = .ok result) : ∃ value, first = .ok value ∧ next value = result := by
  cases first with
  | error fault => cases done
  | ok value => exact ⟨value, rfl, Except.ok.inj done⟩

theorem ofSignal_eq_ok {α : Type} {result : Except Decimal.Signal α} {value : α}
    (done : ofSignal result = .ok value) : result = .ok value := by
  cases result with
  | error signal => cases done
  | ok _ =>
      cases done
      rfl

theorem ofReading_eq_ok {α : Type} {record : String} {reading : Schema.Reading α} {value : α}
    (done : ofReading record reading = .ok value) : reading = .ok value := by
  cases reading with
  | refused issues => cases done
  | ok _ =>
      cases done
      rfl

end ChainFlow
