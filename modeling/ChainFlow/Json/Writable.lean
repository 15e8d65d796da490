import ChainFlow.Json.Basic
import ChainFlow.Text.Surrogate

/-!
# What can be written

Three things about a value decide whether it can be written down and sent. How deep it is nested: a scalar
has one level, and a container one more than the deepest of what it holds. Whether all its numbers are
finite, as JSON has no text for others: `isFinite` says so, and `finite` puts null in their places. And
whether it can be put in UTF-8, which has no bytes for half a surrogate pair.
-/

namespace ChainFlow.Json

/-! ## Levels of nesting -/

mutual

def levels : Json → Nat
  | .arr items => levelsOfItems items + 1
  | .obj fields => levelsOfFields fields + 1
  | _ => 1

def levelsOfItems : List Json → Nat
  | [] => 0
  | item :: rest => max (levels item) (levelsOfItems rest)

def levelsOfFields : List (String × Json) → Nat
  | [] => 0
  | (_, value) :: rest => max (levels value) (levelsOfFields rest)

end

/-! ## Finite numbers -/

mutual

def isFinite : Json → Bool
  | .float value => value.isFinite
  | .arr items => itemsFinite items
  | .obj fields => fieldsFinite fields
  | _ => true

def itemsFinite : List Json → Bool
  | [] => true
  | item :: rest => isFinite item && itemsFinite rest

def fieldsFinite : List (String × Json) → Bool
  | [] => true
  | (_, value) :: rest => isFinite value && fieldsFinite rest

end

mutual

/-- A value with null for every number that is not finite. -/
def finite : Json → Json
  | .float value => if value.isFinite then .float value else .null
  | .arr items => .arr (finiteItems items)
  | .obj fields => .obj (finiteFields fields)
  | value => value

def finiteItems : List Json → List Json
  | [] => []
  | item :: rest => finite item :: finiteItems rest

def finiteFields : List (String × Json) → List (String × Json)
  | [] => []
  | (name, value) :: rest => (name, finite value) :: finiteFields rest

end

mutual

theorem isFinite_finite : ∀ value : Json, value.finite.isFinite = true
  | .null | .bool _ | .int _ | .str _ => rfl
  | .float value => by
    simp only [finite]
    split
    · assumption
    · rfl
  | .arr items => itemsFinite_finiteItems items
  | .obj fields => fieldsFinite_finiteFields fields

theorem itemsFinite_finiteItems : ∀ items : List Json, itemsFinite (finiteItems items) = true
  | [] => rfl
  | item :: rest => by
    simp [finiteItems, itemsFinite, isFinite_finite item, itemsFinite_finiteItems rest]

theorem fieldsFinite_finiteFields :
    ∀ fields : List (String × Json), fieldsFinite (finiteFields fields) = true
  | [] => rfl
  | (_, value) :: rest => by
    simp [finiteFields, fieldsFinite, isFinite_finite value, fieldsFinite_finiteFields rest]

end

/-! ## Texts and names -/

mutual

/-- Whether no text of a value holds half a pair. -/
def isEncodable : Json → Bool
  | .str text => !Text.hasLone text
  | .arr items => itemsEncodable items
  | .obj fields => fieldsEncodable fields
  | _ => true

def itemsEncodable : List Json → Bool
  | [] => true
  | item :: rest => isEncodable item && itemsEncodable rest

def fieldsEncodable : List (String × Json) → Bool
  | [] => true
  | (name, value) :: rest => !Text.hasLone name && isEncodable value && fieldsEncodable rest

end

end ChainFlow.Json
