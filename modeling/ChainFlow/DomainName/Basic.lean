import ChainFlow.DomainName.Label
import ChainFlow.DomainName.Punycode

/-!
# Domain names

A domain name is a row of labels with dots between them; a dot may follow the last. In ASCII, a
label with other characters is written in Punycode behind a mark. `encode` and `decode` go from one
form to the other and refuse names that break a rule.
-/

namespace ChainFlow.DomainName

/-- What an encoded label begins with. -/
def encodedMark : List Char := "xn--".toList

/-- The most characters that a label has in ASCII. -/
def labelLimit : Nat := 63

/-- The most characters that a name has in ASCII, a dot at its end apart. -/
def nameLimit : Nat := 253

def isDot (c : Char) : Bool := c == '.' || c == '\u3002' || c == '\uFF0E' || c == '\uFF61'

def labels : List Char → List (List Char)
  | [] => [[]]
  | c :: rest =>
    if isDot c then [] :: labels rest
    else
      match labels rest with
      | label :: more => (c :: label) :: more
      | [] => [[c]]

def decodeLabel (label : List Char) : Except Defect (List Char) := do
  let label := label.map Char.toLower
  if encodedMark.isPrefixOf label then
    let content := label.drop encodedMark.length
    if content.isEmpty then .error .noContent
    if content.getLast? = some '-' then .error .encodedHyphen
    match Punycode.decode content with
    | none => .error .notEncoded
    | some label =>
      check label
      return label
  else
    check label
    return label

def encodeLabel (label : List Char) : Except Defect (List Char) := do
  let encoded ←
    if label.all (·.toNat < Punycode.firstCode) then
      let _ ← decodeLabel label
      pure label
    else
      check label
      pure (encodedMark ++ Punycode.encode label)
  if labelLimit < encoded.length then .error .labelTooLong
  return encoded

def convert (convertLabel : List Char → Except Defect (List Char)) (name : List Char) :
    Except Defect (List Char) := do
  let labels := labels name
  if labels = [[]] then .error .emptyName
  let dotted := labels.getLast? = some []
  let converted ← (if dotted then labels.dropLast else labels).mapM convertLabel
  return ((if dotted then converted ++ [[]] else converted).intersperse ['.']).flatten

def encode (name : List Char) : Except Defect (List Char) := do
  let encoded ← convert encodeLabel name
  let dot := if encoded.getLast? = some '.' then 1 else 0
  if nameLimit + dot < encoded.length then .error .nameTooLong
  return encoded

def decode (name : List Char) : Except Defect (List Char) := convert decodeLabel name

end ChainFlow.DomainName
