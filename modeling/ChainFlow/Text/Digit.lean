/-!
# Decimal digits

The digits of Unicode's category Nd come in runs of ten, from zero to nine. `digit?` gives the value
of a digit of any script, `asciiDigit?` that of `0` to `9` alone, and `digits` writes a number.
-/

namespace ChainFlow.Text

/-- The zeros of the scripts that have decimal digits. -/
def digitZeros : List Nat := [
    0x30, 0x660, 0x6F0, 0x7C0, 0x966, 0x9E6, 0xA66, 0xAE6, 0xB66, 0xBE6,
    0xC66, 0xCE6, 0xD66, 0xDE6, 0xE50, 0xED0, 0xF20, 0x1040, 0x1090, 0x17E0,
    0x1810, 0x1946, 0x19D0, 0x1A80, 0x1A90, 0x1B50, 0x1BB0, 0x1C40, 0x1C50, 0xA620,
    0xA8D0, 0xA900, 0xA9D0, 0xA9F0, 0xAA50, 0xABF0, 0xFF10, 0x104A0, 0x10D30, 0x11066,
    0x110F0, 0x11136, 0x111D0, 0x112F0, 0x11450, 0x114D0, 0x11650, 0x116C0, 0x11730, 0x118E0,
    0x11950, 0x11C50, 0x11D50, 0x11DA0, 0x16A60, 0x16AC0, 0x16B50, 0x1D7CE, 0x1D7D8, 0x1D7E2,
    0x1D7EC, 0x1D7F6, 0x1E140, 0x1E2F0, 0x1E950, 0x1FBF0]

def digit? (c : Char) : Option Nat :=
  (digitZeros.find? fun start => start ≤ c.toNat && c.toNat < start + 10).map (c.toNat - ·)

def asciiDigit? (c : Char) : Option Nat :=
  if '0' ≤ c ∧ c ≤ '9' then some (c.toNat - '0'.toNat) else none

def digitChar (n : Nat) : Char := Char.ofNat ('0'.toNat + n)

/-- The value of a run of ASCII digits, read from the left; other characters count as zero. -/
def natOfDigits (text : List Char) : Nat :=
  text.foldl (fun value c => 10 * value + (asciiDigit? c).getD 0) 0

/-- The decimal digits of a number, without leading zeros. -/
def digits (n : Nat) : List Char := Nat.toDigits 10 n

/-- How many decimal digits a number has; zero has one. -/
def digitCount (n : Nat) : Nat := (digits n).length

def integer (n : Int) : List Char :=
  if n < 0 then '-' :: digits n.natAbs else digits n.natAbs

def hexDigit (n : Nat) : Char := Nat.digitChar n

/-- A number in base sixteen, with zeros on the left up to a width. -/
def hex (width n : Nat) : List Char :=
  let written := Nat.toDigits 16 n
  List.replicate (width - written.length) '0' ++ written

end ChainFlow.Text
