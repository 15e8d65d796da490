import ChainFlow.Text.Surrogate

/-!
# Punycode

A label in ASCII: first its ASCII characters, then for each other character, in the order of their
code points, how far it is from the one before. Distances are written in digits of base 36, the
lowest first; a digit below its threshold is the last of a distance. The thresholds follow a bias,
which adapts to the distances seen.
-/

namespace ChainFlow.DomainName.Punycode

def firstCode : Nat := 0x80

/-- The bias before any distance is seen. -/
def firstBias : Nat := 72

def threshold (bias place : Nat) : Nat := min 26 (max 1 (36 * (place + 1) - bias))

def digit (value : Nat) : Char :=
  if value < 26 then Char.ofNat ('a'.toNat + value) else Char.ofNat ('0'.toNat + (value - 26))

/-- The value of a digit; letters count in either case. -/
def value? (c : Char) : Option Nat :=
  if 'a' ≤ c ∧ c ≤ 'z' then some (c.toNat - 'a'.toNat)
  else if 'A' ≤ c ∧ c ≤ 'Z' then some (c.toNat - 'A'.toNat)
  else if '0' ≤ c ∧ c ≤ '9' then some (c.toNat - '0'.toNat + 26)
  else none

/-- A distance brought down to what a bias is computed from, and the bias that each division adds. -/
def settled (distance : Nat) : Nat × Nat :=
  if 455 < distance then
    let (settled, added) := settled (distance / 35)
    (settled, added + 36)
  else (distance, 0)
termination_by distance

/-- The bias after a distance; `count` is the number of characters that are there with the one that
the distance leads to. -/
def adapted (distance count : Nat) (isFirst : Bool) : Nat :=
  let distance := distance / if isFirst then 700 else 2
  let (rest, added) := settled (distance + distance / count)
  added + 36 * rest / (rest + 38)

theorem threshold_pos (bias place : Nat) : 0 < threshold bias place := by
  unfold threshold; omega

def digitsFrom (bias place distance : Nat) : List Char :=
  let limit := threshold bias place
  if distance < limit then [digit distance]
  else
    digit (limit + (distance - limit) % (36 - limit)) ::
      digitsFrom bias (place + 1) ((distance - limit) / (36 - limit))
termination_by distance
decreasing_by
  have := threshold_pos bias place
  exact Nat.lt_of_le_of_lt (Nat.div_le_self _ _) (by omega)

structure Progress where
  count : Nat
  distance : Nat
  bias : Nat
  written : List Char

/-- Passes over a character of the label while the characters with a code are written; `basic` is
the number of ASCII characters. -/
def Progress.pass (basic code : Nat) (progress : Progress) (c : Char) : Progress :=
  if c.toNat < code then { progress with distance := progress.distance + 1 }
  else if c.toNat = code then
    { count := progress.count + 1
      distance := 0
      bias := adapted progress.distance (progress.count + 1) (progress.count = basic)
      written := progress.written ++ digitsFrom progress.bias 0 progress.distance }
  else progress

/-- Writes the characters with each of some codes, in ascending order; `next` is the code that
follows the one before. -/
def Progress.write (basic : Nat) (label : List Char) : List Nat → Nat → Progress → Progress
  | [], _, progress => progress
  | code :: codes, next, progress =>
    let skipped := (code - next) * (progress.count + 1)
    let progress := label.foldl (pass basic code)
      { progress with distance := progress.distance + skipped }
    write basic label codes (code + 1) { progress with distance := progress.distance + 1 }

/-- The codes outside ASCII in a label, each once and in ascending order. -/
def codes (label : List Char) : List Nat :=
  ((label.map Char.toNat).filter (firstCode ≤ ·)).mergeSort.eraseDups

def encode (label : List Char) : List Char :=
  let basic := label.filter (·.toNat < firstCode)
  let progress := Progress.write basic.length label (codes label) firstCode
    ⟨basic.length, 0, firstBias, []⟩
  (if basic.isEmpty then [] else basic ++ ['-']) ++ progress.written

/-- A distance at the front of some digits, and the digits behind it. `weight` is that of the digit
at a place. -/
def distance? (bias : Nat) : Nat → Nat → List Char → Option (Nat × List Char)
  | _, _, [] => none
  | place, weight, c :: rest => do
    let value ← value? c
    if value < threshold bias place then some (value * weight, rest)
    else
      let (more, rest) ← distance? bias (place + 1) (weight * (36 - threshold bias place)) rest
      some (value * weight + more, rest)

/-- Puts characters into a text, each at the distance that its digits say from the one before, which
had a code and a place. `fuel` is the number of digits. -/
def insert (isFirst : Bool) (code place bias : Nat) (text : List Char) :
    Nat → List Char → Option (List Char)
  | _, [] => some text
  | 0, _ => none
  | fuel + 1, digits => do
    let (distance, digits) ← distance? bias 0 1 digits
    let slots := text.length + 1
    let code := code + (place + distance) / slots
    let place := (place + distance) % slots
    if 0x110000 ≤ code then none
    else
      let text := text.take place ++ Text.ofUnit code :: text.drop place
      insert false code (place + 1) (adapted distance slots isFirst) text fuel digits

def decode (text : List Char) : Option (List Char) :=
  let digits := (text.reverse.takeWhile (· ≠ '-')).reverse
  insert true firstCode 0 firstBias (text.take (text.length - digits.length - 1)) digits.length digits

end ChainFlow.DomainName.Punycode
