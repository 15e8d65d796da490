import ChainFlow.Amount

/-!
# Fees in a quote

A backend reports the fee of an operation under one of several paths of field names, and the time
that it takes under a field of its own. `Fee.total` takes the first path that leads to a number.
-/

namespace ChainFlow.Fee

/-- The paths under which a total fee is looked for, in this order. -/
def paths : List (List String) := [
  ["intent", "fees", "total"],
  ["intent", "fees", "gasSupplied"],
  ["estimatedFees", "total"],
  ["estimatedFees"],
  ["totalEstimatedCost"],
  ["fees", "total"]]

def follow? : List String → Json → Option Json
  | [], value => some value
  | name :: rest, .obj fields => (Fields.get? fields name).bind (follow? rest)
  | _, _ => none

/-- The fee that a value states, if it is one number. -/
def ofValue? (value : Json) : Option String :=
  match value with
  | .null => none
  | .obj _ => none
  | value =>
    match Decimal.parse value.plain.toList with
    | .ok number => (Amount.formatCost number).toOption
    | .error _ => none

def nothing : String := "0.00"

def totalUnder (paths : List (List String)) (quote : Json) : String :=
  (paths.findSome? fun path => (follow? path quote).bind ofValue?).getD nothing

def total (quote : Json) : String := totalUnder paths quote

/-- The time that a quote states, in seconds, if it is a number that is not negative. -/
def seconds? (fields : Fields) : Except Fault (Option Int) :=
  match Fields.get? fields "estimatedTime" with
  | some (.bool value) => .ok (some (if value then 1 else 0))
  | some (.int value) => .ok (if 0 ≤ value then some value else none)
  | some (.float value) =>
    if value.isNonnegative then
      match value.truncate? with
      | some seconds => .ok (some seconds)
      | none => .error .endless
    else .ok none
  | _ => .ok none

end ChainFlow.Fee
