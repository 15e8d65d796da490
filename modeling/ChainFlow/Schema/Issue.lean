import ChainFlow.Json.Basic

/-!
# Issues found while reading data

An `Issue` says what is wrong with a piece of data and where it stands inside the whole: a path of
field names and list positions. `Problem.code` is the name under which a problem is reported, and
`Problem.message` its words.
-/

namespace ChainFlow.Schema

inductive Step where
  | field (name : String)
  | item (index : Nat)
  /-- The choice of a kind, which leads to the same value. -/
  | tag (word : String)
  deriving DecidableEq

def Step.dump : Step → Json
  | field name => .str name
  | item index => .int index
  | tag word => .str word

inductive Problem where
  | missing
  | text
  /-- Text with half a surrogate pair, where a text of characters is needed. -/
  | textUnicode
  | textTooShort
  | integer
  | integerFraction
  | integerText
  | integerSize
  | finite
  | number
  | numberText
  | numberBelowZero
  | boolean
  | booleanText
  | list
  | dictionary
  | decimal
  /-- Not an object that could be read as the named record. -/
  | record (name : String)
  /-- Not an object at all. -/
  | attributes
  | choice (allowed : List String)
  | tagMissing (name : String)
  | tagUnknown (name tag : String) (allowed : List String)
  | json
  deriving DecidableEq

structure Issue where
  path : List Step
  problem : Problem
  deriving DecidableEq

def Issue.under (step : Step) (issue : Issue) : Issue := { issue with path := step :: issue.path }

/-- A choice of words between single quotes, the last two joined by "or". -/
def alternatives : List String → String
  | [] => ""
  | [only] => s!"'{only}'"
  | [first, second] => s!"'{first}' or '{second}'"
  | first :: rest => s!"'{first}', {alternatives rest}"

/-- Words between single quotes with commas between them. -/
def enumeration (words : List String) : String :=
  ", ".intercalate (words.map fun word => s!"'{word}'")

namespace Problem

def code : Problem → String
  | missing => "missing"
  | text => "string_type"
  | textUnicode => "string_unicode"
  | textTooShort => "string_too_short"
  | integer => "int_type"
  | integerFraction => "int_from_float"
  | integerText => "int_parsing"
  | integerSize => "int_parsing_size"
  | finite => "finite_number"
  | number => "float_type"
  | numberText => "float_parsing"
  | numberBelowZero => "greater_than_equal"
  | boolean => "bool_type"
  | booleanText => "bool_parsing"
  | list => "list_type"
  | dictionary => "dict_type"
  | decimal => "decimal_parsing"
  | record _ => "model_type"
  | attributes => "model_attributes_type"
  | choice _ => "enum"
  | tagMissing _ => "union_tag_not_found"
  | tagUnknown .. => "union_tag_invalid"
  | json => "json_invalid"

def message : Problem → String
  | missing => "Field required"
  | text => "Input should be a valid string"
  | textUnicode =>
    "Input should be a valid string, unable to parse raw data as a unicode string"
  | textTooShort => "String should have at least 1 character"
  | integer => "Input should be a valid integer"
  | integerFraction =>
    "Input should be a valid integer, got a number with a fractional part"
  | integerText => "Input should be a valid integer, unable to parse string as an integer"
  | integerSize => "Unable to parse input string as an integer, exceeded maximum size"
  | finite => "Input should be a finite number"
  | number => "Input should be a valid number"
  | numberText => "Input should be a valid number, unable to parse string as a number"
  | numberBelowZero => "Input should be greater than or equal to 0"
  | boolean => "Input should be a valid boolean"
  | booleanText => "Input should be a valid boolean, unable to interpret input"
  | list => "Input should be a valid list"
  | dictionary => "Input should be a valid dictionary"
  | decimal => "Input should be a valid decimal"
  | record name => s!"Input should be a valid dictionary or instance of {name}"
  | attributes => "Input should be a valid dictionary or object to extract fields from"
  | choice allowed => s!"Input should be {alternatives allowed}"
  | tagMissing name => s!"Unable to extract tag using discriminator '{name}'"
  | tagUnknown name tag allowed =>
    s!"Input tag '{tag}' found using '{name}' does not match any of the expected tags: {enumeration allowed}"
  | json => "JSON decode error"

end Problem

def Issue.dump (issue : Issue) : Json := .obj [
  ("type", .str issue.problem.code), ("loc", .arr (issue.path.map Step.dump)),
  ("msg", .str issue.problem.message)]

def summary (issues : List Issue) : String :=
  if issues.length = 1 then "1 validation error" else s!"{issues.length} validation errors"

end ChainFlow.Schema
