/-!
# Blank characters and lines

Two sets of blank characters are in use. `isWhiteSpace` is the Unicode property White_Space;
`isBlank` adds the four information separators U+001C to U+001F. `trimBy` drops the characters of
a set from both ends of a text.
-/

namespace ChainFlow.Text

/-- The Unicode property White_Space. -/
def isWhiteSpace (c : Char) : Bool :=
  let n := c.toNat
  (0x9 ≤ n && n ≤ 0xD) || n == 0x20 || n == 0x85 || n == 0xA0 || n == 0x1680 ||
    (0x2000 ≤ n && n ≤ 0x200A) || n == 0x2028 || n == 0x2029 || n == 0x202F || n == 0x205F ||
    n == 0x3000

/-- White space, or one of the four information separators. -/
def isBlank (c : Char) : Bool :=
  isWhiteSpace c || (0x1C ≤ c.toNat && c.toNat ≤ 0x1F)

/-- What remains of a text without the characters of a set at its two ends. -/
def trimBy (inSet : Char → Bool) (text : List Char) : List Char :=
  ((text.dropWhile inSet).reverse.dropWhile inSet).reverse

def trimBlank (text : List Char) : List Char := trimBy isBlank text

def trimWhiteSpace (text : List Char) : List Char := trimBy isWhiteSpace text

theorem isBlank_of_isWhitespace (c : Char) (white : c.isWhitespace = true) : isBlank c = true := by
  simp only [Char.isWhitespace, Bool.or_eq_true, decide_eq_true_eq] at white
  rcases white with ((rfl | rfl) | rfl) | rfl <;> decide

/-! ## Lines -/

/-- A line ends with a line feed, a carriage return, or both in that order. -/
def unifyLines : List Char → List Char
  | [] => []
  | '\r' :: '\n' :: rest => '\n' :: unifyLines rest
  | '\r' :: rest => '\n' :: unifyLines rest
  | c :: rest => c :: unifyLines rest

def endsLine (c : Char) : Bool := c == '\n' || c == '\r'

def isInnerBlank (c : Char) : Bool := isBlank c && !endsLine c

end ChainFlow.Text
