import ChainFlow.Json.Basic
import ChainFlow.Binary64.Shortest
import ChainFlow.Text.Quoted

/-!
# Writing JSON

`compact` writes a value without blanks and with the fields of every object in the order of their
names; `indented` gives every item its own line and keeps the order of fields. Both escape every
character outside ASCII, a character beyond the first plane as a pair; `sent` escapes none of them
and keeps the order of fields. `shown` writes a value for a reader of messages, with text between
single quotes.
-/

namespace ChainFlow.Json

def unitEscape (unit : Nat) : List Char := '\\' :: 'u' :: Text.hex 4 unit

inductive Charset where
  | ascii
  | unicode

/-- Whether a character stands in a string as it is, quotes and backslashes apart. -/
def Charset.holds : Charset → Char → Bool
  | ascii, c => 0x20 ≤ c.toNat && c.toNat < 0x7F
  | unicode, c => 0x20 ≤ c.toNat

def stringChar (charset : Charset) (c : Char) : List Char :=
  if c = '"' then ['\\', '"']
  else if c = '\\' then ['\\', '\\']
  else if c = '\n' then ['\\', 'n']
  else if c = '\r' then ['\\', 'r']
  else if c = '\t' then ['\\', 't']
  else if c = '\x08' then ['\\', 'b']
  else if c = '\x0c' then ['\\', 'f']
  else if charset.holds c then [c]
  else if Text.codePoint c < 0x10000 then unitEscape (Text.codePoint c)
  else
    let offset := c.toNat - 0x10000
    unitEscape (0xD800 + offset / 0x400) ++ unitEscape (0xDC00 + offset % 0x400)

def stringText (charset : Charset) (text : String) : List Char :=
  '"' :: text.toList.flatMap (stringChar charset) ++ ['"']

/-- A floating-point number, with names for what is not finite. -/
def floatText : Binary64 → List Char
  | .nan => "NaN".toList
  | .infinite negative => (if negative then "-Infinity" else "Infinity").toList
  | x => x.text

def sortedFields (fields : Fields) : Fields := fields.mergeSort fun a b => a.1 ≤ b.1

def separated (separator : List Char) (texts : List (List Char)) : List Char :=
  (texts.intersperse separator).flatten

mutual

def sorted : Json → Json
  | .arr items => .arr (sortedItems items)
  | .obj fields => .obj (sortedFields (sortedEntries fields))
  | value => value

def sortedItems : List Json → List Json
  | [] => []
  | item :: rest => sorted item :: sortedItems rest

def sortedEntries : List (String × Json) → List (String × Json)
  | [] => []
  | (name, value) :: rest => (name, sorted value) :: sortedEntries rest

end

mutual

def compactText (charset : Charset) : Json → List Char
  | .null => "null".toList
  | .bool value => (if value then "true" else "false").toList
  | .int value => Text.integer value
  | .float value => floatText value
  | .str text => stringText charset text
  | .arr items => '[' :: separated [','] (compactItems charset items) ++ [']']
  | .obj fields => '{' :: separated [','] (compactFields charset fields) ++ ['}']

def compactItems (charset : Charset) : List Json → List (List Char)
  | [] => []
  | item :: rest => compactText charset item :: compactItems charset rest

def compactFields (charset : Charset) : List (String × Json) → List (List Char)
  | [] => []
  | (name, value) :: rest =>
    (stringText charset name ++ ':' :: compactText charset value) :: compactFields charset rest

end

def compact (value : Json) : List Char := compactText .ascii value.sorted

def sent (value : Json) : List Char := compactText .unicode value

def newLine (depth : Nat) : List Char := '\n' :: List.replicate (2 * depth) ' '

/-- The lines of a container, or its two brackets if it is empty. -/
def block (opening closing : Char) (depth : Nat) (lines : List (List Char)) : List Char :=
  if lines.isEmpty then [opening, closing]
  else
    opening :: newLine (depth + 1) ++ separated (',' :: newLine (depth + 1)) lines ++
      newLine depth ++ [closing]

mutual

/-- A value with one item a line. -/
def indentedText (depth : Nat) : Json → List Char
  | .arr items => block '[' ']' depth (indentedItems (depth + 1) items)
  | .obj fields => block '{' '}' depth (indentedFields (depth + 1) fields)
  | .null => "null".toList
  | .bool value => (if value then "true" else "false").toList
  | .int value => Text.integer value
  | .float value => floatText value
  | .str text => stringText .ascii text

def indentedItems (depth : Nat) : List Json → List (List Char)
  | [] => []
  | item :: rest => indentedText depth item :: indentedItems depth rest

def indentedFields (depth : Nat) : List (String × Json) → List (List Char)
  | [] => []
  | (name, value) :: rest =>
    (stringText .ascii name ++ ':' :: ' ' :: indentedText depth value) :: indentedFields depth rest

end

/-- A value with one item a line, indented by two for every container around it. -/
def indented (value : Json) : List Char := indentedText 0 value

mutual

/-- A value as it stands inside another in a message. -/
def literal : Json → List Char
  | .null => "None".toList
  | .bool value => (if value then "True" else "False").toList
  | .int value => Text.integer value
  | .float value => value.text
  | .str text => Text.quoted text.toList
  | .arr items => '[' :: separated ", ".toList (literalItems items) ++ [']']
  | .obj fields => '{' :: separated ", ".toList (literalFields fields) ++ ['}']

def literalItems : List Json → List (List Char)
  | [] => []
  | item :: rest => literal item :: literalItems rest

def literalFields : List (String × Json) → List (List Char)
  | [] => []
  | (name, value) :: rest =>
    (Text.quoted name.toList ++ ": ".toList ++ literal value) :: literalFields rest

end

/-- A value in a message, with text between quotes. -/
def shown (value : Json) : String := String.ofList value.literal

/-- A value in a message, text as it is. -/
def plain : Json → String
  | .str text => text
  | value => value.shown

end ChainFlow.Json
