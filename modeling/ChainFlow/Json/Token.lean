import ChainFlow.Json.Basic
import ChainFlow.Text.Surrogate
import ChainFlow.Text.Whole

/-!
# The tokens of a JSON text

`tokens` cuts a text into punctuation, names of constants, numbers and strings, each with the place
where it begins, up to a token that marks the end. A character that begins no token becomes
`Token.junk`, and a string or number that cannot be read becomes `Token.broken`; whether such a
token stands where one of its kind is expected is for the reader to say. The names `NaN`, `Infinity`
and `-Infinity` are numbers.
-/

namespace ChainFlow.Json

open Text (isHighSurrogate isLowSurrogate ofUnit ofPair)

inductive Container where
  | array
  | object
  deriving DecidableEq

inductive Defect where
  | value
  | name
  | colon
  | comma
  | extra
  | unterminated
  | control
  | escape
  | unicodeEscape
  | byteOrderMark
  | digits (count : Nat)
  | depth (container : Container)
  | encoding
  deriving DecidableEq

/-- Whether a text with a defect breaks the rules of the format; else it goes beyond what is read. -/
def Defect.isSyntax : Defect → Bool
  | .digits _ | .depth _ | .encoding => false
  | _ => true

/-- A defect and the number of characters before it. -/
structure Misread where
  defect : Defect
  place : Nat
  deriving DecidableEq

inductive Token where
  | openArray
  | closeArray
  | openObject
  | closeObject
  | comma
  | colon
  | str (text : String)
  | scalar (value : Json)
  | junk
  | broken (misread : Misread)
  | finish

/-- A token and the number of characters before it. -/
structure Located where
  place : Nat
  token : Token

def isSpace (c : Char) : Bool := c == ' ' || c == '\t' || c == '\n' || c == '\r'

def hexValue? (c : Char) : Option Nat :=
  if c.isDigit then some (c.toNat - '0'.toNat)
  else if 'a' ≤ c ∧ c ≤ 'f' then some (c.toNat - 'a'.toNat + 10)
  else if 'A' ≤ c ∧ c ≤ 'F' then some (c.toNat - 'A'.toNat + 10)
  else none

def hexQuad? : List Char → Option Nat
  | a :: b :: c :: d :: _ => do
    some ((((← hexValue? a) * 16 + (← hexValue? b)) * 16 + (← hexValue? c)) * 16 + (← hexValue? d))
  | _ => none

def escaped? : Char → Option Char
  | '"' => some '"'
  | '\\' => some '\\'
  | '/' => some '/'
  | 'b' => some '\x08'
  | 'f' => some '\x0c'
  | 'n' => some '\n'
  | 'r' => some '\r'
  | 't' => some '\t'
  | _ => none

/-- What a string goes on with: its end, a character and how many characters wrote it, or a
defect. `place` counts the characters before `text`, `start` those before the string. -/
inductive Piece where
  | closed
  | char (c : Char) (taken : Nat)
  | fault (misread : Misread)

/-- The piece that an escape with a code unit stands for; `text` follows the letter `u`. A second
half is sought only where characters remain after it. -/
def unicodePiece (place : Nat) (text : List Char) : Piece :=
  if text.length < 5 then .fault ⟨.unicodeEscape, place + 1⟩
  else
    match hexQuad? text with
    | none => .fault ⟨.unicodeEscape, place + 1⟩
    | some high =>
      match text.drop 4 with
      | '\\' :: 'u' :: second =>
        if isHighSurrogate high && 4 < second.length then
          match hexQuad? second with
          | none => .fault ⟨.unicodeEscape, place + 7⟩
          | some low =>
            if isLowSurrogate low then
              .char (ofPair high low) 12
            else .char (ofUnit high) 6
        else .char (ofUnit high) 6
      | _ => .char (ofUnit high) 6

def piece (start place : Nat) : List Char → Piece
  | [] => .fault ⟨.unterminated, start⟩
  | '"' :: _ => .closed
  | '\\' :: [] => .fault ⟨.unterminated, start⟩
  | '\\' :: 'u' :: rest => unicodePiece place rest
  | '\\' :: c :: _ =>
    match escaped? c with
    | some c => .char c 2
    | none => .fault ⟨.escape, place⟩
  | c :: _ => if c.toNat < 0x20 then .fault ⟨.control, place⟩ else .char c 1

/-- A string whose opening quote has been taken: its text and the number of characters read, the
closing quote among them. `fuel` is above the length of the text. -/
def stringBody (start : Nat) : Nat → Nat → List Char → Except Misread (List Char × Nat)
  | 0, _, _ => .error ⟨.unterminated, start⟩
  | fuel + 1, place, text =>
    match piece start place text with
    | .closed => .ok ([], 1)
    | .fault misread => .error misread
    | .char c taken =>
      match stringBody start fuel (place + taken) (text.drop taken) with
      | .ok (rest, more) => .ok (c :: rest, taken + more)
      | .error misread => .error misread

/-- The whole part of a number: one zero, or digits that begin with another. -/
def wholeDigits : List Char → List Char
  | '0' :: _ => ['0']
  | text => text.takeWhile Char.isDigit

/-- The digits after a point, where both are there. -/
def fractionDigits : List Char → List Char
  | '.' :: rest => rest.takeWhile Char.isDigit
  | _ => []

/-- An exponent: its value and the number of its characters. -/
def exponentPart : List Char → Option (Int × Nat)
  | c :: rest =>
    if c = 'e' ∨ c = 'E' then
      let (negative, sign, rest) :=
        match rest with
        | '-' :: rest => (true, 1, rest)
        | '+' :: rest => (false, 1, rest)
        | rest => (false, 0, rest)
      let digits := rest.takeWhile Char.isDigit
      if digits.isEmpty then none
      else
        let value : Int := Text.natOfDigits digits
        some (if negative then -value else value, 1 + sign + digits.length)
    else none
  | [] => none

/-- A number without its sign, and how many characters it has. -/
def unsignedNumber (place : Nat) (negative : Bool) (text : List Char) : Option (Token × Nat) :=
  let whole := wholeDigits text
  if whole.isEmpty then none
  else
    let rest := text.drop whole.length
    let fraction := fractionDigits rest
    let taken := whole.length + if fraction.isEmpty then 0 else fraction.length + 1
    let exponent := exponentPart (text.drop taken)
    if fraction.isEmpty && exponent.isNone then
      if Text.digitLimit < whole.length then
        some (.broken ⟨.digits whole.length, place⟩, taken)
      else
        let value : Int := Text.natOfDigits whole
        some (.scalar (.int (if negative then -value else value)), taken)
    else
      let (power, more) := exponent.getD (0, 0)
      some (.scalar (.float (Binary64.ofDecimal negative (Text.natOfDigits (whole ++ fraction))
        (power - fraction.length))), taken + more)

def constants : List (List Char × Json) := [
  ("null".toList, .null), ("true".toList, .bool true), ("false".toList, .bool false),
  ("NaN".toList, .float .nan), ("Infinity".toList, .float (.infinite false)),
  ("-Infinity".toList, .float (.infinite true))]

/-- The token of a number or of a named constant, and its length. -/
def wordToken (place : Nat) (text : List Char) : Token × Nat :=
  match constants.find? fun constant => constant.1.isPrefixOf text with
  | some (name, value) => (.scalar value, name.length)
  | none =>
    match text with
    | '-' :: rest =>
      match unsignedNumber place true rest with
      | some (token, taken) => (token, taken + 1)
      | none => (.junk, 1)
    | text => (unsignedNumber place false text).getD (.junk, 1)

/-- The token that a text begins with, and its length; the text begins with no blank. -/
def token (place : Nat) : List Char → Token × Nat
  | [] => (.finish, 0)
  | '[' :: _ => (.openArray, 1)
  | ']' :: _ => (.closeArray, 1)
  | '{' :: _ => (.openObject, 1)
  | '}' :: _ => (.closeObject, 1)
  | ',' :: _ => (.comma, 1)
  | ':' :: _ => (.colon, 1)
  | '"' :: rest =>
    match stringBody place (rest.length + 1) (place + 1) rest with
    | .ok (text, taken) => (.str (String.ofList text), taken + 1)
    | .error misread => (.broken misread, rest.length + 1)
  | text => wordToken place text

/-- The tokens of a text and its end. `fuel` is above the length of the text. -/
def tokensFrom : Nat → Nat → List Char → List Located
  | 0, place, _ => [⟨place, .finish⟩]
  | fuel + 1, place, text =>
    match text with
    | [] => [⟨place, .finish⟩]
    | c :: rest =>
      if isSpace c then tokensFrom fuel (place + 1) rest
      else
        let (first, taken) := token place text
        ⟨place, first⟩ :: tokensFrom fuel (place + taken) (text.drop taken)

def tokens (text : List Char) : List Located := tokensFrom (text.length + 1) 0 text

end ChainFlow.Json
