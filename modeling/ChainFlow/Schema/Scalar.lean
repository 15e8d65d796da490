import ChainFlow.Schema.Reading
import ChainFlow.Decimal.Numeral
import ChainFlow.Text.Surrogate
import ChainFlow.Text.Whole

/-!
# Reading scalars

Scalars are read leniently: a whole number may come as a floating-point number without a fraction,
as a truth value or as text, a number as text, and a truth value as one of a dozen words. Text is
only ever read from text.
-/

namespace ChainFlow.Schema

open Text

/-- The text without its underscores, if each of them stands inside and alone. -/
def withoutUnderscores? (text : List Char) : Option (List Char) :=
  let rec alone : List Char → Bool
    | '_' :: '_' :: _ => false
    | _ :: rest => alone rest
    | [] => true
  if text.head? = some '_' ∨ text.getLast? = some '_' ∨ !alone text then none
  else some (text.filter (· ≠ '_'))

/-- The text before a point that only zeros follow, at least one of them, or all of it. -/
def withoutZeroFraction (text : List Char) : List Char :=
  match text.dropWhile (· ≠ '.') with
  | _ :: fraction =>
    if !fraction.isEmpty && fraction.all (· = '0') then text.takeWhile (· ≠ '.') else text
  | [] => text

/-- A whole number in its plainest form: digits without needless zeros, after a minus sign at
most. -/
def plainInteger (text : List Char) : Reading Int :=
  let (negative, rest) :=
    match text with
    | '-' :: rest => (true, rest)
    | rest => (false, rest)
  let digits := if rest.head? = some '0' then ['0'] else rest.takeWhile Char.isDigit
  if digitLimit < digits.length then .problem .integerSize
  else if digits.isEmpty || digits.length < rest.length then .problem .integerText
  else .ok (Decimal.signed negative (natOfDigits digits))

/-- A text that begins with a zero, from the first character after its leading zeros and
underscores on. Where all there is are zeros, or a point follows them, the last one stays. -/
def afterZeros? (last : Char) : List Char → Option (List Char)
  | [] => some [last]
  | c :: rest =>
    if c = '0' ∨ c = '_' then afterZeros? c rest
    else if c = '.' then some (last :: c :: rest)
    else if c = '-' ∨ c.isDigit then some (c :: rest)
    else none

def withoutLeadingZeros? : List Char → Option (List Char)
  | '0' :: rest => afterZeros? '0' rest
  | c :: rest => if c.isDigit then some (c :: rest) else none
  | [] => none

/-- The plainest form of a whole number: without white space around it, a plus sign, leading
zeros, a fraction of zeros and underscores between digits. -/
def plainest? (text : List Char) : Option (List Char) := do
  let text := trimWhiteSpace text
  let text ←
    match text with
    | '+' :: '+' :: _ => none
    | '+' :: '-' :: _ => none
    | '+' :: rest => withoutLeadingZeros? rest
    | '-' :: rest => (withoutLeadingZeros? rest).map ('-' :: ·)
    | text => withoutLeadingZeros? text
  withoutUnderscores? (withoutZeroFraction text)

def integerOfText (text : List Char) : Reading Int :=
  if text.any isLone then .problem .textUnicode
  else
    match plainInteger text with
    | .ok value => .ok value
    | .refused issues =>
      if issues.any (·.problem == .integerSize) then .refused issues
      else
        match plainest? text with
        | some text => plainInteger text
        | none => .refused issues

/-- The bound below which a floating-point number is taken for a whole one. -/
def integerBound : Nat := twoTo 63

def integer : Json → Reading Int
  | .int value => .ok value
  | .bool value => .ok (if value then 1 else 0)
  | .float value =>
    match value.truncate?, value.toInt? with
    | none, _ => .problem .finite
    | some _, none => .problem .integerFraction
    | some _, some value =>
      if value.natAbs < integerBound then .ok value else .problem .integerSize
  | .str text => integerOfText text.toList
  | _ => .problem .integer

/-- A decimal numeral in ASCII as a floating-point number. -/
def numeral? (negative : Bool) (text : List Char) : Option Binary64 :=
  let (whole, rest) := Decimal.takeDigits text
  let (fraction, rest) :=
    match rest with
    | '.' :: rest => Decimal.takeDigits rest
    | rest => ([], rest)
  if whole.isEmpty && fraction.isEmpty then none
  else
    (Decimal.exponent? rest).map fun exponent =>
      Binary64.ofDecimal negative (natOfDigits (whole ++ fraction)) (exponent - fraction.length)

/-- A floating-point number from text, in any case of its letters. -/
def float? (text : List Char) : Option Binary64 :=
  let (negative, rest) := Decimal.takeSign (text.map Char.toLower)
  if rest = "inf".toList ∨ rest = "infinity".toList then some (.infinite negative)
  else if rest = "nan".toList then some .nan
  else numeral? negative rest

/-- A floating-point number from text; underscores are allowed where there are no blanks. -/
def floatOfText (text : List Char) : Reading Binary64 :=
  if text.any isLone then .problem .textUnicode
  else match (float? (trimWhiteSpace text)).or ((withoutUnderscores? text).bind float?) with
  | some value => .ok value
  | none => .problem .numberText

def float : Json → Reading Binary64
  | .float value => .ok value
  | .int value =>
    match Binary64.ofInt value with
    | .infinite _ => .problem .number
    | value => .ok value
  | .bool value => .ok (.ofInt (if value then 1 else 0))
  | .str text => floatOfText text.toList
  | _ => .problem .number

def text : Json → Reading String
  | .str value => .ok value
  | _ => .problem .text

def yesWords : List String := ["1", "on", "t", "true", "y", "yes"]

def noWords : List String := ["0", "off", "f", "false", "n", "no"]

def boolean : Json → Reading Bool
  | .bool value => .ok value
  | .str text =>
    let word := text.toLower
    if hasLone text then .problem .textUnicode
    else if yesWords.contains word then .ok true
    else if noWords.contains word then .ok false
    else .problem .booleanText
  | .int value =>
    if value = 0 then .ok false
    else if value = 1 then .ok true
    else if value < integerBound ∧ -integerBound ≤ value then .problem .booleanText
    else .problem .boolean
  | .float value =>
    match value.toInt? with
    | some 0 => .ok false
    | some 1 => .ok true
    | some value => .problem (if value.natAbs < integerBound then .booleanText else .boolean)
    | none => .problem .boolean
  | _ => .problem .boolean

def choice {α : Type} (allowed : List String) (find : String → Option α) : Json → Reading α
  | .str word =>
    match find word with
    | some value => .ok value
    | none => .problem (if hasLone word then .textUnicode else .choice allowed)
  | _ => .problem (.choice allowed)

def dictionary : Json → Reading Fields
  | .obj fields => .ok fields
  | _ => .problem .dictionary

def list {α : Type} (read : Json → Reading α) : Json → Reading (List α)
  | .arr items => Reading.items read 0 items
  | _ => .problem .list

def nullable {α : Type} (read : Json → Reading α) : Json → Reading (Option α)
  | .null => .ok none
  | value => (read value).map some

end ChainFlow.Schema
