import ChainFlow.Json.Writable
import ChainFlow.Schema.Scalar

/-!
# Records

A record is an object with declared fields. Each field has two names, one for documents and one
plain; either is read, and the document's name is preferred. What no declared field has taken
remains as extra fields. A record is written under either set of names, in full or without its null
fields, declared fields first; an extra field that repeats a name takes its place. Numbers that are
not finite are written as null where nothing declares them numbers. A value without a declared type
is written into a document only if it is not nested too deep.
-/

namespace ChainFlow.Schema

structure Label where
  wire : String
  plain : String
  deriving DecidableEq

def Label.same (name : String) : Label := ⟨name, name⟩

/-- How an object that is not one is reported. -/
inductive Source where
  /-- Data on its own: the record is named. -/
  | document
  | request
  deriving DecidableEq

def object (source : Source) (name : String) : Json → Reading Fields
  | .obj fields => .ok fields
  | _ =>
    match source with
    | .document => .problem (.record name)
    | .request => .problem .attributes

/-- The fields of an object that is to be a record and to keep its undeclared fields: all names have
to be texts of characters. -/
def openFields (fields : Fields) : Reading Fields :=
  if fields.any fun field => Text.hasLone field.1 then .problem .textUnicode else .ok fields

/-- The name under which a field is present. -/
def Label.found? (label : Label) (fields : Fields) : Option (String × Json) :=
  match fields.get? label.wire with
  | some value => some (label.wire, value)
  | none => (fields.get? label.plain).map fun value => (label.plain, value)

variable {α : Type}

def required (fields : Fields) (label : Label) (read : Json → Reading α) : Reading α :=
  match label.found? fields with
  | some (name, value) => (read value).under (.field name)
  | none => .refused [⟨[.field label.wire], .missing⟩]

/-- A field that has a value of its own where it is left out. -/
def withDefault (fields : Fields) (label : Label) (default : α) (read : Json → Reading α) :
    Reading α :=
  match label.found? fields with
  | some (name, value) => (read value).under (.field name)
  | none => .ok default

/-- A field that may be left out or null. -/
def optional (fields : Fields) (label : Label) (read : Json → Reading α) : Reading (Option α) :=
  withDefault fields label none (nullable read)

/-- The fields that no declared field has taken. -/
def extras (fields : Fields) (labels : List Label) : Fields :=
  fields.filter fun field =>
    !labels.any fun label => (label.found? fields).any fun found => found.1 == field.1

structure Style where
  /-- Whether fields have their names in documents. -/
  wire : Bool
  /-- Whether null fields are left out. -/
  thin : Bool
  /-- Whether undeclared numbers that are not finite are kept; else they are written as null. -/
  exact : Bool
  deriving DecidableEq

/-- The names in documents, without null fields. -/
def Style.document : Style := ⟨true, true, false⟩

/-- The names in documents, with null fields. -/
def Style.full : Style := ⟨true, false, false⟩

/-- Plain names, with null fields and all numbers. -/
def Style.plain : Style := ⟨false, false, true⟩

def Style.name (style : Style) (label : Label) : String :=
  if style.wire then label.wire else label.plain

def Style.kept (style : Style) (fields : Fields) : Fields :=
  if style.thin then fields.present else fields

def Style.untyped (style : Style) (value : Json) : Json := if style.exact then value else value.finite

def Style.untypedFields (style : Style) (fields : Fields) : Fields :=
  fields.map fun field => (field.1, style.untyped field.2)

/-- How many levels a value without a declared type may have in a document. -/
def levelLimit : Nat := 255

/-- Whether fields that have no declared types can be written into a document. -/
def fitsLevels (fields : Fields) : Bool := fields.all fun field => field.2.levels ≤ levelLimit

def Style.record (style : Style) (declared : List (Label × Json)) (extras : Fields) : Json :=
  let declared := declared.map fun field => (style.name field.1, field.2)
  .obj (Fields.merge (style.kept declared) (style.untypedFields (style.kept extras)))

end ChainFlow.Schema
