import ChainFlow.Text.Encoding

/-!
# JSON texts as bytes

A JSON text begins with two characters of ASCII, so the zeros among its first bytes say how wide
its code units are and in which order their bytes stand. `decode` takes bytes apart in the encoding
that they show. A half of a surrogate pair may stand alone.
-/

namespace ChainFlow.Json

inductive Encoding where
  | utf8
  | utf8Marked
  | utf16 (big : Bool)
  | utf32 (big : Bool)
  deriving DecidableEq

def Encoding.shownBy : List UInt8 → Encoding
  | 0xEF :: 0xBB :: 0xBF :: _ => utf8Marked
  | a :: b :: c :: d :: _ =>
    if a = 0 then (if b = 0 then utf32 true else utf16 true)
    else if b = 0 then (if c = 0 ∧ d = 0 then utf32 false else utf16 false)
    else utf8
  | [a, b] => if a = 0 then utf16 true else if b = 0 then utf16 false else utf8
  | _ => utf8

def pairValue (big : Bool) (a b : Nat) : Nat := if big then 0x100 * a + b else a + 0x100 * b

def units (big : Bool) : List UInt8 → Option (List Nat)
  | [] => some []
  | [_] => none
  | a :: b :: rest => (units big rest).map (pairValue big a.toNat b.toNat :: ·)

def wideUnits (big : Bool) : List Nat → Option (List Nat)
  | [] => some []
  | [_] => none
  | a :: b :: rest =>
    (wideUnits big rest).map ((if big then 0x10000 * a + b else a + 0x10000 * b) :: ·)

/-- The characters of code units, two halves that meet joined. -/
def joined : List Nat → List Char
  | high :: low :: rest =>
    if Text.isHighSurrogate high && Text.isLowSurrogate low then Text.ofPair high low :: joined rest
    else Text.ofUnit high :: joined (low :: rest)
  | units => units.map Text.ofUnit

/-- The number after the last one that a character can have. -/
def codePointLimit : Nat := 0x110000

/-- The characters that bytes stand for in an encoding that they show; `text` is what they are in
UTF-8. -/
def decodeAs (text : List Char) (bytes : List UInt8) : Encoding → Option (List Char)
  | .utf8 => some text
  | .utf8Marked => some text.tail
  | .utf16 big => (units big bytes).map joined
  | .utf32 big => do
    let units ← wideUnits big (← units big bytes)
    if units.all (· < codePointLimit) then some (units.map Text.ofUnit) else none

/-- The characters that the bytes of a text stand for, if these show another encoding than the one
in which they were written. -/
def decode (text : List Char) : Option (List Char) :=
  let bytes := text.flatMap Text.utf8
  decodeAs text bytes (.shownBy bytes)

end ChainFlow.Json
