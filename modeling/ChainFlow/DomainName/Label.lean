import ChainFlow.DomainName.Character
import ChainFlow.DomainName.Permitted
import ChainFlow.Text.Composition
import ChainFlow.Text.Quoted

/-!
# Labels

A domain name is made of labels. `check` finds the first rule that a label breaks: it is composed,
has no hyphen at its ends, does not begin with a mark, holds only characters that are permitted
where they stand, and runs in one direction.
-/

namespace ChainFlow.DomainName

inductive Defect where
  | emptyName
  | emptyLabel
  | nameTooLong
  | labelTooLong
  | notComposed
  | innerHyphens
  | outerHyphen
  | leadingMark
  /-- A character that stands nowhere in a label; places are counted from one. -/
  | notPermitted (c : Char) (place : Nat) (label : List Char)
  | misplaced (c : Char) (place : Nat) (label : List Char)
  | joiner (c : Char) (place : Nat) (label : List Char)
  /-- The first character has no direction of its own. -/
  | noDirection (label : List Char)
  /-- A character has a direction that is not that of the label. -/
  | otherDirection (place : Nat) (leftward : Bool)
  | mixedNumbers
  | directionlessEnd
  /-- An encoded label without characters. -/
  | noContent
  | encodedHyphen
  | notEncoded
  deriving DecidableEq

def codeText (c : Char) : String :=
  let digits := (Text.hex 4 (Text.codePoint c)).map Char.toUpper
  s!"U+{String.ofList digits}"

def labelText (label : List Char) : String := String.ofList (Text.quoted label)

def Defect.message : Defect → String
  | emptyName => "Empty domain"
  | emptyLabel => "Empty Label"
  | nameTooLong => "Domain too long"
  | labelTooLong => "Label too long"
  | notComposed => "Label must be in Normalization Form C"
  | innerHyphens => "Label has disallowed hyphens in 3rd and 4th position"
  | outerHyphen => "Label must not start or end with a hyphen"
  | leadingMark => "Label begins with an illegal combining character"
  | notPermitted c place label =>
    s!"Codepoint {codeText c} at position {place} of {labelText label} not allowed"
  | misplaced c place label =>
    s!"Codepoint {codeText c} not allowed at position {place} in {labelText label}"
  | joiner c place label =>
    s!"Unknown codepoint adjacent to joiner {codeText c} at position {place} in {labelText label}"
  | noDirection label =>
    s!"First codepoint in label {labelText label} must be directionality L, R or AL"
  | otherDirection place leftward =>
    let way := if leftward then "right-to-left" else "left-to-right"
    s!"Invalid direction for codepoint at position {place} in a {way} label"
  | mixedNumbers => "Can not mix numeral types in a right-to-left label"
  | directionlessEnd => "Label ends with illegal codepoint directionality"
  | noContent => "Malformed A-label, no Punycode eligible content found"
  | encodedHyphen => "A-label must not end with a hyphen"
  | notEncoded => "Invalid A-label"

/-! ## Characters beside their neighbours -/

/-- The combining class of the marks that bind consonants. -/
def viramaClass : Nat := 9

/-- Whether the nearest letter that counts joins in one of some ways. -/
def meets (ways : List Joining) (text : List Char) : Bool :=
  (((text.map joiningOf).dropWhile (· == .through)).head?).any ways.contains

/-- Whether a character is in its place between those before it, the nearest first, and those after
it; only of some characters there is a rule. -/
def fits? (before : List Char) (c : Char) (after : List Char) : Option Bool :=
  let label := before.reverse ++ c :: after
  let bound := (before.head?).any (Text.combiningClass · == viramaClass)
  let arabicDigit (c : Char) : Bool := '\u0660' ≤ c && c ≤ '\u0669'
  let persianDigit (c : Char) : Bool := '\u06F0' ≤ c && c ≤ '\u06F9'
  match c with
  | '\u00B7' => some (before.head? == some 'l' && after.head? == some 'l')
  | '\u0375' => some ((after.head?).any isGreek)
  | '\u05F3' | '\u05F4' => some ((before.head?).any isHebrew)
  | '\u30FB' => some (label.any fun c => c ≠ '\u30FB' && isJapanese c)
  | '\u200C' =>
    some (bound || (meets [.after, .both] before && meets [.before, .both] after))
  | '\u200D' => some bound
  | c =>
    if arabicDigit c then some (!label.any persianDigit)
    else if persianDigit c then some (!label.any arabicDigit)
    else none

/-- Whether a character joins its neighbours and is none itself. -/
def isJoiner (c : Char) : Bool := c == '\u200C' || c == '\u200D'

/-- Checks the characters of a label behind some that are in order, the nearest first. -/
def checkCharacters (label before : List Char) : List Char → Except Defect Unit
  | [] => .ok ()
  | c :: after =>
    if isPermitted c then checkCharacters label (c :: before) after
    else
      match fits? before c after with
      | some true => checkCharacters label (c :: before) after
      | some false =>
        if isJoiner c then .error (.joiner c (before.length + 1) label)
        else .error (.misplaced c (before.length + 1) label)
      | none => .error (.notPermitted c (before.length + 1) label)

/-! ## Directions -/

/-- Whether a direction makes a label one in which directions count. -/
def Direction.isLeftward (direction : Direction) : Bool :=
  [Direction.right, .arabic, .arabicNumber].contains direction

/-- Whether a label of a direction may end with a character of another. -/
def Direction.mayEnd (leftward : Bool) (direction : Direction) : Bool :=
  (if leftward then [Direction.right, .arabic, .number, .arabicNumber]
    else [Direction.left, .number]).contains direction

/-- Checks the directions of a label from a place on. `numbers` is the direction of the first digit
that has been seen, `ends` whether the label may end here. -/
def checkDirections (leftward : Bool) (place : Nat) (numbers : Option Direction) (ends : Bool) :
    List Direction → Except Defect Unit
  | [] => if ends then .ok () else .error .directionlessEnd
  | direction :: rest =>
    let allowed := if leftward then direction ≠ .left else !direction.isLeftward
    let isNumber := direction = .number ∨ direction = .arabicNumber
    if !allowed then .error (.otherDirection place leftward)
    else if leftward && isNumber && numbers.any (· ≠ direction) then .error .mixedNumbers
    else
      checkDirections leftward (place + 1) (if isNumber then some direction else numbers)
        (direction.mayEnd leftward || (direction == .mark && ends)) rest

def checkDirection (label : List Char) : Except Defect Unit :=
  let directions := label.map directionOf
  if directions.any Direction.isLeftward then
    match directions with
    | .right :: _ | .arabic :: _ => checkDirections true 1 none false directions
    | .left :: _ => checkDirections false 1 none false directions
    | _ => .error (.noDirection label)
  else .ok ()

/-! ## All rules -/

/-- The first rule that a label breaks. -/
def check (label : List Char) : Except Defect Unit := do
  if label.isEmpty then .error .emptyLabel
  if !Text.isComposed label then .error .notComposed
  if (label.drop 2).take 2 = ['-', '-'] then .error .innerHyphens
  if label.head? = some '-' ∨ label.getLast? = some '-' then .error .outerHyphen
  if (label.head?).any Text.isMark then .error .leadingMark
  checkCharacters label [] label
  checkDirection label

end ChainFlow.DomainName
