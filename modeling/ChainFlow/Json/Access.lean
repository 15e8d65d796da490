import ChainFlow.Json.Basic

/-!
# Looking into values

Access to the parts of a value whose form is known. What is not there, or is of another type, is
null, empty, or what is given for it.
-/

namespace ChainFlow.Json

/-- The value of a field, null if there is none. -/
def field (value : Json) (name : String) : Json :=
  match value with
  | .obj fields => (Fields.get? fields name).getD .null
  | _ => .null

def hasField (value : Json) (name : String) : Bool :=
  match value with
  | .obj fields => Fields.has fields name
  | _ => false

def items : Json → List Json
  | .arr items => items
  | _ => []

def entries : Json → Fields
  | .obj fields => fields
  | _ => []

def string? : Json → Option String
  | .str text => some text
  | _ => none

def number? : Json → Option Binary64
  | .int value => some (.ofInt value)
  | .float value => some value
  | _ => none

def textAt (value : Json) (name otherwise : String) : String :=
  (value.field name).string?.getD otherwise

def intAt (value : Json) (name : String) (otherwise : Int) : Int :=
  (value.field name).numeral?.getD otherwise

def boolAt (value : Json) (name : String) (otherwise : Bool) : Bool :=
  match value.field name with
  | .bool value => value
  | _ => otherwise

def itemsAt (value : Json) (name : String) : List Json := (value.field name).items

def textsAt (value : Json) (name : String) : List String := (value.itemsAt name).filterMap string?

end ChainFlow.Json
