import ChainFlow.Decimal.Basic
import ChainFlow.Text.Blank

/-!
# Decimal numerals

`parse` reads a numeral exactly, with no limit on its digits: a sign, digits of any script with an
optional point and exponent, or the name of an infinity or a not-a-number in any case. Blanks at the
ends and underscores anywhere are ignored. `render` writes a number so that it reads back: plainly
if its exponent is neither positive nor far below the digits, otherwise with an exponent.
-/

namespace ChainFlow.Decimal

/-- The character as the grammar of numerals knows it: a digit of any script is an ASCII digit. -/
def plainChar? (c : Char) : Option Char :=
  if c.toNat = 0 then none
  else if c.toNat < 0x80 then some c
  else (Text.digit? c).map Text.digitChar

/-- A text with its ends trimmed, underscores gone and digits in ASCII. -/
def plain? (text : List Char) : Option (List Char) :=
  ((Text.trimBlank text).filter (· ≠ '_')).mapM plainChar?

def takeSign : List Char → Bool × List Char
  | '-' :: rest => (true, rest)
  | '+' :: rest => (false, rest)
  | rest => (false, rest)

def takeDigits (text : List Char) : List Char × List Char :=
  (text.takeWhile Char.isDigit, text.dropWhile Char.isDigit)

/-- An exponent that ends a numeral; none at all is zero. -/
def exponent? : List Char → Option Int
  | [] => some 0
  | 'e' :: rest =>
    let (negative, rest) := takeSign rest
    let (digits, rest) := takeDigits rest
    if digits.isEmpty || !rest.isEmpty then none
    else some (signed negative (Text.natOfDigits digits))
  | _ => none

def greatestExponent : Int := 999999999999999999

def leastExponent : Int := -1999999999999999997

/-- A numeral's number, if its exponent is one that a number can have. -/
def bounded (negative : Bool) (coefficient : Nat) (exponent : Int) : Except Signal Decimal :=
  let top := if coefficient = 0 then exponent else adjusted coefficient exponent
  if top ≤ greatestExponent ∧ leastExponent ≤ exponent then
    .ok (.finite negative coefficient exponent)
  else .error .invalid

/-- A numeral in lower case without its sign. -/
def unsigned (negative : Bool) (text : List Char) : Except Signal Decimal :=
  if text = "inf".toList ∨ text = "infinity".toList then .ok (.infinite negative)
  else
    match text with
    | 'n' :: 'a' :: 'n' :: payload =>
      if payload.all Char.isDigit then .ok (.nan negative false (Text.natOfDigits payload))
      else .error .malformed
    | 's' :: 'n' :: 'a' :: 'n' :: payload =>
      if payload.all Char.isDigit then .ok (.nan negative true (Text.natOfDigits payload))
      else .error .malformed
    | _ =>
      let (whole, rest) := takeDigits text
      let (fraction, rest) :=
        match rest with
        | '.' :: rest => takeDigits rest
        | rest => ([], rest)
      if whole.isEmpty && fraction.isEmpty then .error .malformed
      else
        match exponent? rest with
        | some exponent =>
          bounded negative (Text.natOfDigits (whole ++ fraction)) (exponent - fraction.length)
        | none => .error .malformed

def parse (text : List Char) : Except Signal Decimal :=
  match plain? text with
  | none => .error .malformed
  | some text =>
    let (negative, rest) := takeSign text
    unsigned negative (rest.map Char.toLower)

def ofString? (text : String) : Option Decimal := (parse text.toList).toOption

/-- Digits with a point after the first `whole` of them, and zeros where there are none. -/
def pointed (digits : List Char) (whole : Int) : List Char :=
  if whole ≤ 0 then '0' :: '.' :: List.replicate (-whole).toNat '0' ++ digits
  else if digits.length ≤ whole.toNat then digits
  else digits.take whole.toNat ++ '.' :: digits.drop whole.toNat

/-- A magnitude with the exponent it is kept with. -/
def magnitudeText (coefficient : Nat) (exponent : Int) : List Char :=
  let digits := Text.digits coefficient
  let whole := exponent + digits.length
  if exponent ≤ 0 ∧ -6 < whole then pointed digits whole
  else
    pointed digits 1 ++ 'E' :: (if whole - 1 < 0 then '-' else '+') ::
      Text.digits (whole - 1).natAbs

def render : Decimal → List Char
  | .finite negative coefficient exponent =>
    (if negative then ['-'] else []) ++ magnitudeText coefficient exponent
  | .infinite negative => (if negative then "-Infinity" else "Infinity").toList
  | .nan negative signaling payload =>
    (if negative then ['-'] else []) ++ (if signaling then ['s'] else []) ++ "NaN".toList ++
      (if payload = 0 then [] else Text.digits payload)

def toText (x : Decimal) : String := String.ofList x.render

end ChainFlow.Decimal
