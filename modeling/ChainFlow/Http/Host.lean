import ChainFlow.DomainName.Basic
import ChainFlow.Text.Case
import ChainFlow.Text.Digit
import ChainFlow.Text.Encoding

/-!
# Hosts

The host of an address: four numbers with dots, an address of version 6 in brackets, or a name. A
name with characters outside ASCII is written as a domain name in ASCII.

Elsewhere in an address a byte can be written as a percent sign and two digits of base sixteen.
`Percent.encode` writes all characters so that are not in a set, and leaves what is written so already;
`Percent.decode` reads it back.
-/

namespace ChainFlow.Http

/-! ## Percent encoding -/

namespace Percent

def hexValue? (c : Char) : Option Nat :=
  if '0' ≤ c ∧ c ≤ '9' then some (c.toNat - '0'.toNat)
  else if 'a' ≤ c ∧ c ≤ 'f' then some (c.toNat - 'a'.toNat + 10)
  else if 'A' ≤ c ∧ c ≤ 'F' then some (c.toNat - 'A'.toNat + 10)
  else none

def byteText (byte : UInt8) : List Char := '%' :: (Text.hex 2 byte.toNat).map Char.toUpper

def encode (inSet : Char → Bool) : List Char → List Char
  | [] => []
  | '%' :: high :: low :: rest =>
    if (hexValue? high).isSome && (hexValue? low).isSome then
      '%' :: high :: low :: encode inSet rest
    else (if inSet '%' then ['%'] else byteText '%'.toNat.toUInt8) ++ encode inSet (high :: low :: rest)
  | c :: rest =>
    (if inSet c then [c] else (Text.utf8 c).flatMap byteText) ++ encode inSet rest

/-- The bytes of a text, those that are written by their codes among them. -/
def bytes : List Char → List UInt8
  | [] => []
  | '%' :: high :: low :: rest =>
    match hexValue? high, hexValue? low with
    | some high, some low => UInt8.ofNat (16 * high + low) :: bytes rest
    | _, _ => '%'.toNat.toUInt8 :: bytes (high :: low :: rest)
  | c :: rest => Text.utf8 c ++ bytes rest

def decode (text : List Char) : List Char := Text.ofUtf8 (bytes text)

end Percent

/-! ## Hosts -/

inductive HostDefect where
  | fourNumbers
  | versionSix
  | name
  deriving DecidableEq

namespace Host

def isDigit (c : Char) : Bool := '0' ≤ c && c ≤ '9'

/-- Whether a text, behind a digit, goes on with digits up to its end, but for some characters that
each stand before a digit. -/
def goesOnWithDigits : Nat → List Char → Bool
  | others, [] => others == 0
  | others, [c] => others == 0 && isDigit c
  | others, c :: next :: rest =>
    (isDigit c && goesOnWithDigits others (next :: rest)) ||
      (0 < others && isDigit next && goesOnWithDigits (others - 1) rest)

/-- Whether a text looks like four numbers with a character between each two. -/
def looksLikeNumbers : List Char → Bool
  | [] => false
  | c :: rest => isDigit c && goesOnWithDigits 3 rest

def splitAt (mark : Char) : List Char → List (List Char)
  | [] => [[]]
  | c :: rest =>
    if c = mark then [] :: splitAt mark rest
    else
      match splitAt mark rest with
      | part :: parts => (c :: part) :: parts
      | [] => [[c]]

/-- Whether a text is a number below 256 without needless zeros. -/
def isOctet (text : List Char) : Bool :=
  !text.isEmpty && text.all isDigit && text.length ≤ 3 &&
    (text == ['0'] || text.head? != some '0') && Text.natOfDigits text < 256

def isFourNumbers (text : List Char) : Bool :=
  let parts := splitAt '.' text
  parts.length == 4 && parts.all isOctet

def isGroup (text : List Char) : Bool :=
  !text.isEmpty && text.length ≤ 4 && text.all fun c => (Percent.hexValue? c).isSome

def groupCount : Nat := 8

/-- Whether parts between colons are the groups of an address of version 6. One empty part inside
stands for all groups that are missing; at an end it takes the empty part there with it. -/
def areGroups (parts : List (List Char)) : Bool :=
  if parts.length < 3 ∨ groupCount + 1 < parts.length then false
  else
    let inner := (parts.drop 1).dropLast
    match inner.findIdx? (·.isEmpty) with
    | none => parts.length == groupCount && parts.all isGroup
    | some index =>
      let before := parts.take (index + 1)
      let after := parts.drop (index + 2)
      let before := if before == [[]] then [] else before
      let after := if after == [[]] then [] else after
      before.all isGroup && after.all isGroup && before.length + after.length < groupCount

/-- The parts of an address of version 6, with two groups for the four numbers that may end it. -/
def groups? (text : List Char) : Option (List (List Char)) :=
  let parts := splitAt ':' text
  match parts.getLast? with
  | some last =>
    if last.contains '.' then
      if parts.length < 3 || !isFourNumbers last then none
      else some (parts.dropLast ++ [['0'], ['0']])
    else some parts
  | none => none

/-- Whether a text is an address of version 6. The name of a zone may follow behind a percent
sign. -/
def isVersionSix (text : List Char) : Bool :=
  let address := text.takeWhile (· ≠ '%')
  let zoneFits :=
    match text.drop address.length with
    | [] => true
    | _ :: zone => !zone.isEmpty && !zone.contains '%'
  !text.contains '/' && zoneFits && (groups? address).any areGroups

def isSafe (c : Char) : Bool :=
  c.isAlphanum || "-._~!$&'()*+,;=\"`\x7b\x7d%|\\".toList.contains c

/-- The host that a text names, as it is kept. -/
def read (text : List Char) : Except HostDefect (List Char) :=
  if looksLikeNumbers text then
    if isFourNumbers text then .ok text else .error .fourNumbers
  else if text.head? = some '[' ∧ text.getLast? = some ']' ∧ 2 ≤ text.length then
    let address := text.tail.dropLast
    if isVersionSix address then .ok address else .error .versionSix
  else if text.all (·.toNat < 128) then .ok (Percent.encode isSafe (text.map Char.toLower))
  else
    match DomainName.encode (Text.lower text) with
    | .ok name => .ok name
    | .error _ => .error .name

end Host

end ChainFlow.Http
