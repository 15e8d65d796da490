/-!
# Lone surrogates

An escape in a JSON text can name half of a surrogate pair, which is no character. A text carries
such a half as a stand-in: the character 0xD0000 above it, in a plane to which no character has
been assigned. `unit?` gives the half that a character stands for.
-/

namespace ChainFlow.Text

def isHighSurrogate (unit : Nat) : Bool := 0xD800 ≤ unit && unit < 0xDC00

def isLowSurrogate (unit : Nat) : Bool := 0xDC00 ≤ unit && unit < 0xE000

/-- How far a stand-in is above its half. -/
def standInOffset : Nat := 0xD0000

/-- The character of a code unit, a stand-in for half a pair. -/
def ofUnit (unit : Nat) : Char :=
  if isHighSurrogate unit || isLowSurrogate unit then Char.ofNat (standInOffset + unit)
  else Char.ofNat unit

def ofPair (high low : Nat) : Char :=
  Char.ofNat (0x10000 + (high - 0xD800) * 0x400 + (low - 0xDC00))

def unit? (c : Char) : Option Nat :=
  if standInOffset + 0xD800 ≤ c.toNat && c.toNat < standInOffset + 0xE000 then
    some (c.toNat - standInOffset)
  else none

def isLone (c : Char) : Bool := (unit? c).isSome

def hasLone (text : String) : Bool := text.toList.any isLone

/-- A text with a replacement character for each of the three bytes that would make up half a pair. -/
def withoutLone (text : String) : String :=
  String.ofList (text.toList.flatMap fun c => if isLone c then List.replicate 3 '\uFFFD' else [c])

/-- The number of a character, or of the half that it stands for. -/
def codePoint (c : Char) : Nat := (unit? c).getD c.toNat

end ChainFlow.Text
