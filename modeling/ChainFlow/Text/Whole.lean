import ChainFlow.Text.Blank
import ChainFlow.Text.Digit

/-!
# Whole numbers

`whole` reads a whole number that a person has typed: white space around it, a sign, digits of any
script, and underscores one at a time between digits. Digits are counted before what follows them
is looked at.
-/

namespace ChainFlow.Text

/-- The most digits that the text of a whole number may have. -/
def digitLimit : Nat := 4300

def digitLimitMessage (count : Nat) : String :=
  s!"Exceeds the limit ({digitLimit} digits) for integer string conversion: value has {count} digits; use sys.set_int_max_str_digits() to increase the limit"

inductive WholeDefect where
  | malformed
  | tooLong (digits : Nat)
  deriving DecidableEq

/-- Whether a text of digits and underscores has each underscore between two digits. -/
def underscoresApart : List Char → Bool
  | [] => true
  | [c] => c != '_'
  | c :: next :: rest => !(c == '_' && next == '_') && underscoresApart (next :: rest)

def unsignedWhole (text : List Char) : Except WholeDefect Nat :=
  let run := text.takeWhile fun c => (digit? c).isSome || c == '_'
  let values := run.filterMap digit?
  if run.head? = some '_' || run.isEmpty || !underscoresApart run then .error .malformed
  else if digitLimit < values.length then .error (.tooLong values.length)
  else if run.length < text.length then .error .malformed
  else .ok (values.foldl (fun value digit => 10 * value + digit) 0)

def whole (text : List Char) : Except WholeDefect Int :=
  match trimWhiteSpace text with
  | '-' :: text => (unsignedWhole text).map fun value => -(value : Int)
  | '+' :: text => (unsignedWhole text).map Int.ofNat
  | text => (unsignedWhole text).map Int.ofNat

end ChainFlow.Text
