import ChainFlow.Binary64.Basic

/-!
# JSON values

The values of the JSON data format, with whole numbers kept apart from binary floating-point ones.
The fields of an object keep the order in which their names first appeared: `Fields.put` replaces a
value in its place, or appends a new field.
-/

namespace ChainFlow

inductive Json where
  | null
  | bool (value : Bool)
  | int (value : Int)
  | float (value : Binary64)
  | str (value : String)
  | arr (items : List Json)
  | obj (fields : List (String × Json))
  deriving Inhabited

abbrev Fields := List (String × Json)

namespace Fields

def get? (fields : Fields) (name : String) : Option Json := fields.lookup name

def has (fields : Fields) (name : String) : Bool := fields.any (·.1 == name)

def put : Fields → String → Json → Fields
  | [], name, value => [(name, value)]
  | (key, old) :: rest, name, value =>
    if key = name then (key, value) :: rest else (key, old) :: put rest name value

def merge (fields changes : Fields) : Fields :=
  changes.foldl (fun fields change => put fields change.1 change.2) fields

/-- The object that a list of fields, repeated names included, denotes: the last value counts. -/
def ofList (entries : Fields) : Fields := merge [] entries

def erase (fields : Fields) (name : String) : Fields := fields.filter (·.1 ≠ name)

/-- The fields that are not null. -/
def present (fields : Fields) : Fields :=
  fields.filter fun field => match field.2 with
    | .null => false
    | _ => true

end Fields

namespace Json

def ofOption {α : Type} (write : α → Json) : Option α → Json
  | none => .null
  | some value => write value

def ofString? (text : Option String) : Json := ofOption .str text

def ofInt? (value : Option Int) : Json := ofOption .int value

def fields? : Json → Option Fields
  | .obj fields => some fields
  | _ => none

/-- Whether a value counts as true: null, false, zero and everything empty do not. -/
def truthy : Json → Bool
  | .null => false
  | .bool value => value
  | .int value => value ≠ 0
  | .float value => !value.isZero
  | .str value => value ≠ ""
  | .arr items => !items.isEmpty
  | .obj fields => !fields.isEmpty

/-- A value as a whole number by the numeric order of values: a fraction of zero is none, and false
and true are zero and one. -/
def numeral? : Json → Option Int
  | .bool value => some (if value then 1 else 0)
  | .int value => some value
  | .float value => value.toInt?
  | _ => none

end Json

end ChainFlow
