import ChainFlow.Text.Surrogate

/-!
# Texts as bytes

Characters as the bytes of UTF-8. Half a surrogate pair has none: `unencodable?` finds the first run
of such halves. `ofUtf8` reads bytes; what begins no character, and what begins one and does not
go on with it, is replaced by one character.
-/

namespace ChainFlow.Text

def utf8 (c : Char) : List UInt8 := (String.singleton c).toUTF8.toList

/-- What the first byte of a character says: how many bytes follow, the bounds of the next one, and
the bits that it holds itself. -/
structure Lead where
  following : Nat
  low : Nat
  high : Nat
  bits : Nat

/-- The meaning of a byte as the first of a character. -/
def lead? (byte : Nat) : Option Lead :=
  if byte < 0x80 then some ⟨0, 0, 0, byte⟩
  else if byte < 0xC2 then none
  else if byte < 0xE0 then some ⟨1, 0x80, 0xBF, byte - 0xC0⟩
  else if byte < 0xF0 then
    some ⟨2, if byte = 0xE0 then 0xA0 else 0x80, if byte = 0xED then 0x9F else 0xBF, byte - 0xE0⟩
  else if byte < 0xF5 then
    some ⟨3, if byte = 0xF0 then 0x90 else 0x80, if byte = 0xF4 then 0x8F else 0xBF, byte - 0xF0⟩
  else none

/-- The character for bytes that are none. -/
def replacement : Char := '\uFFFD'

/-- The rest of a character: the character, and the bytes behind it. -/
def followed (low high value : Nat) : Nat → List UInt8 → Char × List UInt8
  | 0, bytes => (Char.ofNat value, bytes)
  | _ + 1, [] => (replacement, [])
  | following + 1, byte :: bytes =>
    if low ≤ byte.toNat ∧ byte.toNat ≤ high then
      followed 0x80 0xBF (0x40 * value + (byte.toNat - 0x80)) following bytes
    else (replacement, byte :: bytes)

theorem length_followed_le (low high value following : Nat) (bytes : List UInt8) :
    (followed low high value following bytes).2.length ≤ bytes.length := by
  fun_induction followed with
  | case1 => simp
  | case2 => simp
  | case3 _ _ _ _ _ _ _ shorter => simpa using Nat.le_succ_of_le shorter
  | case4 => simp

def ofUtf8 : List UInt8 → List Char
  | [] => []
  | byte :: bytes =>
    match lead? byte.toNat with
    | none => replacement :: ofUtf8 bytes
    | some lead =>
      let next := followed lead.low lead.high lead.bits lead.following bytes
      next.1 :: ofUtf8 next.2
termination_by bytes => bytes.length
decreasing_by
  · simp
  · exact Nat.lt_succ_of_le (length_followed_le ..)

/-- How many bytes a text has in UTF-8, half a pair counting as one. -/
def byteCount (text : List Char) : Nat :=
  text.foldl (fun count c => count + if isLone c then 1 else c.utf8Size) 0

/-- A run of characters that cannot be encoded: its first character, its place and its length. -/
structure Unencodable where
  first : Char
  place : Nat
  length : Nat
  deriving DecidableEq

/-- Whether half a pair stands for a byte, where a system gives names as bytes. -/
def standsForByte (unit : Nat) : Bool := 0xDC80 ≤ unit && unit < 0xDD00

/-- The first run of halves among which there is one that is not in a set. The run begins with
that one. -/
def unencodable? (inSet : Nat → Bool) (text : List Char) : Option Unencodable :=
  go 0 text
where
  go (place : Nat) : List Char → Option Unencodable
    | [] => none
    | c :: rest =>
      if (unit? c).any (!inSet ·) then some ⟨c, place, ((c :: rest).takeWhile isLone).length⟩
      else go (place + 1) rest

end ChainFlow.Text
