import ChainFlow.Schema.Issue

/-!
# Readings

A `Reading` is what reading a piece of data comes to: a value, or the issues found. Readings are
combined side by side, and the issues of all parts are kept, in the order of the parts.
-/

namespace ChainFlow.Schema

inductive Reading (α : Type) where
  | ok (value : α)
  | refused (issues : List Issue)

namespace Reading

variable {α β : Type}

/-- A reading of a function beside a reading of its argument. -/
def apply : Reading (α → β) → Reading α → Reading β
  | ok f, ok value => ok (f value)
  | ok _, refused issues => refused issues
  | refused issues, ok _ => refused issues
  | refused issues, refused more => refused (issues ++ more)

def map (f : α → β) : Reading α → Reading β
  | ok value => ok (f value)
  | refused issues => refused issues

instance : Applicative Reading where
  pure := ok
  map := map
  seq f x := apply f (x ())

def problem (problem : Problem) : Reading α := refused [⟨[], problem⟩]

/-- A reading of a part, with its issues placed under the step that leads to the part. -/
def under (step : Step) : Reading α → Reading α
  | ok value => ok value
  | refused issues => refused (issues.map (Issue.under step))

/-- A reading followed by another that needs its value. -/
def andThen (reading : Reading α) (next : α → Reading β) : Reading β :=
  match reading with
  | ok value => next value
  | refused issues => refused issues

def toOption : Reading α → Option α
  | ok value => some value
  | refused _ => none

/-- The reading of every item of a list, each placed under its position. -/
def items (read : Json → Reading α) : Nat → List Json → Reading (List α)
  | _, [] => ok []
  | index, item :: rest =>
    apply (map List.cons ((read item).under (.item index))) (items read (index + 1) rest)

theorem map_eq_ok_iff {f : α → β} {reading : Reading α} {result : β} :
    reading.map f = ok result ↔ ∃ value, reading = ok value ∧ f value = result := by
  cases reading <;> simp [map]

theorem apply_eq_ok_iff {f : Reading (α → β)} {reading : Reading α} {result : β} :
    f.apply reading = ok result ↔ ∃ g value, f = ok g ∧ reading = ok value ∧ g value = result := by
  cases f <;> cases reading <;> simp [apply]

theorem under_eq_ok_iff {step : Step} {reading : Reading α} {value : α} :
    reading.under step = ok value ↔ reading = ok value := by
  cases reading <;> simp [under]

end Reading

end ChainFlow.Schema
