import ChainFlow.Binary64.Rounded
import ChainFlow.Json.Printer

/-!
# Messages with places to fill

A message is a list of pieces: text, and conversions such as `%s` that stand for an argument. A
conversion may name its argument, and may set a width, a precision and how the space is filled. Two
percent signs stand for one. A message and arguments that do not fit together have no text.
-/

namespace ChainFlow.Log

inductive Extent where
  | none
  | fixed (count : Nat)
  /-- The next argument gives it. -/
  | given

structure Conversion where
  key : Option String
  flags : List Char
  width : Extent
  precision : Extent
  kind : Char

inductive Piece where
  | text (c : Char)
  | place (conversion : Conversion)

def widthLimit : Nat := twoTo 63 - 1

def precisionLimit : Nat := twoTo 31 - 1

/-- A width or a precision up to a limit, and the rest. -/
def takeExtent? (limit : Nat) (text : List Char) : Option (Extent × List Char) :=
  match text with
  | '*' :: rest => some (.given, rest)
  | _ =>
    match text.takeWhile Char.isDigit with
    | [] => some (.none, text)
    | digits =>
      let count := Text.natOfDigits digits
      if limit < count then Option.none
      else some (.fixed count, text.dropWhile Char.isDigit)

/-- A text up to the bracket that closes what `depth` brackets have opened, and the rest. -/
def takeBracketed? : Nat → List Char → Option (List Char × List Char)
  | _, [] => Option.none
  | 0, _ => Option.none
  | depth + 1, c :: rest =>
    let within (depth : Nat) : Option (List Char × List Char) :=
      (takeBracketed? depth rest).map fun (text, rest) => (c :: text, rest)
    if c = ')' then if depth = 0 then some ([], rest) else within depth
    else within (if c = '(' then depth + 2 else depth + 1)

def takeKey? (text : List Char) : Option (Option String × List Char) :=
  match text with
  | '(' :: rest =>
    (takeBracketed? 1 rest).map fun (key, rest) => (some (String.ofList key), rest)
  | text => some (Option.none, text)

def isFlag (c : Char) : Bool := "-+ #0".toList.contains c

/-- Whether a character tells the size of an argument, which is of no account. -/
def isSize (c : Char) : Bool := "hlL".toList.contains c

def takeConversion? (text : List Char) : Option (Conversion × List Char) := do
  let (key, text) ← takeKey? text
  let flags := text.takeWhile isFlag
  let (width, text) ← takeExtent? widthLimit (text.dropWhile isFlag)
  let (precision, text) ←
    match text with
    | '.' :: rest =>
      (takeExtent? precisionLimit rest).map fun
        | (.none, rest) => (Extent.fixed 0, rest)
        | found => found
    | text => some (Extent.none, text)
  let text := match text with
    | c :: rest => if isSize c then rest else c :: rest
    | [] => []
  match text with
  | [] => Option.none
  | kind :: rest => some (⟨key, flags, width, precision, kind⟩, rest)

/-- The pieces of a message. `fuel` is above its length. -/
def pieces? : Nat → List Char → Option (List Piece)
  | 0, _ => some []
  | _ + 1, [] => some []
  | fuel + 1, '%' :: '%' :: rest => do return .text '%' :: (← pieces? fuel rest)
  | fuel + 1, '%' :: rest => do
    let (conversion, rest) ← takeConversion? rest
    return .place conversion :: (← pieces? fuel rest)
  | fuel + 1, c :: rest => do return .text c :: (← pieces? fuel rest)

/-- A whole number from an argument; a fraction is dropped. -/
def whole? : Json → Option Int
  | .bool value => some (if value then 1 else 0)
  | .int value => some value
  | .float value => value.truncate?
  | _ => none

def integral? : Json → Option Int
  | .bool value => some (if value then 1 else 0)
  | .int value => some value
  | _ => none

def number? : Json → Option Binary64
  | .bool value => some (.ofInt (if value then 1 else 0))
  | .int value =>
    match Binary64.ofInt value with
    | .infinite _ => none
    | number => some number
  | .float value => some value
  | _ => none

def isNegative : Binary64 → Bool
  | .finite negative _ _ => negative
  | .infinite negative => negative
  | .nan => false

/-- The magnitude of a number, written by a rule that takes its mantissa and its exponent. -/
def magnitudeText (write : Nat → Int → List Char) : Binary64 → List Char
  | .finite _ mantissa exponent => write mantissa exponent
  | .infinite _ => "inf".toList
  | .nan => "nan".toList

structure Numeral where
  negative : Bool
  lead : List Char
  digits : List Char

/-- Digits with zeros on the left up to a number of them. -/
def padded (count : Nat) (digits : List Char) : List Char :=
  List.replicate (count - digits.length) '0' ++ digits

def wholeNumeral (base : Nat) (lead : List Char) (precision : Option Nat) (value : Int) : Numeral :=
  ⟨value < 0, lead, padded (precision.getD 0) (Nat.toDigits base value.natAbs)⟩

def floatNumeral (write : Nat → Int → List Char) (value : Binary64) : Numeral :=
  ⟨isNegative value, [], magnitudeText write value⟩

def Numeral.capital (numeral : Numeral) : Numeral :=
  { numeral with
    lead := numeral.lead.map Char.toUpper
    digits := numeral.digits.map Char.toUpper }

/-- The numeral that a conversion makes of an argument, if it makes one. -/
def numeral? (kind : Char) (flags : List Char) (precision : Option Nat) (argument : Json) :
    Option Numeral :=
  let full := flags.contains '#'
  let lead (mark : String) : List Char := if full then mark.toList else []
  let places := precision.getD 6
  let hexadecimal := (integral? argument).map (wholeNumeral 16 (lead "0x") precision)
  let float (write : Bool → Nat → Nat → Int → List Char) : Option Numeral :=
    (number? argument).map (floatNumeral (write full places))
  match kind with
  | 'd' | 'i' | 'u' => (whole? argument).map (wholeNumeral 10 [] precision)
  | 'x' => hexadecimal
  | 'X' => hexadecimal.map Numeral.capital
  | 'o' => (integral? argument).map (wholeNumeral 8 (lead "0o") precision)
  | 'f' => float Binary64.fixedText
  | 'F' => (float Binary64.fixedText).map Numeral.capital
  | 'e' => float Binary64.scientificText
  | 'E' => (float Binary64.scientificText).map Numeral.capital
  | 'g' => float Binary64.generalText
  | 'G' => (float Binary64.generalText).map Numeral.capital
  | _ => none

def charText? (code : Int) : Option (List Char) :=
  if 0 ≤ code ∧ code < 0x110000 then some [Text.ofUnit code.toNat] else none

def asciiText (text : List Char) : List Char :=
  text.flatMap fun c => if c.toNat < 0x80 then [c] else Text.codeEscape c

/-- The text that a conversion makes of an argument, if it is no number. -/
def words? (kind : Char) (precision : Option Nat) (argument : Json) : Option (List Char) :=
  let kept (text : List Char) : List Char :=
    match precision with
    | some count => text.take count
    | none => text
  match kind, argument with
  | 's', argument => some (kept argument.plain.toList)
  | 'r', argument => some (kept argument.literal)
  | 'a', argument => some (kept (asciiText argument.literal))
  | 'c', .str text => if text.length = 1 then some text.toList else none
  | 'c', argument => (integral? argument).bind charText?
  | _, _ => none

/-- Blanks up to a width, on the side that the flags say. -/
def aligned (flags : List Char) (width : Nat) (text : List Char) : List Char :=
  let blanks := List.replicate (width - text.length) ' '
  if flags.contains '-' then text ++ blanks else blanks ++ text

/-- A numeral in its width: zeros go between the sign and the digits. -/
def Numeral.layout (flags : List Char) (width : Nat) (numeral : Numeral) : List Char :=
  let sign :=
    if numeral.negative then ['-']
    else if flags.contains '+' then ['+']
    else if flags.contains ' ' then [' ']
    else []
  let start := sign ++ numeral.lead
  if flags.contains '0' && !flags.contains '-' then
    start ++ padded (width - start.length) numeral.digits
  else aligned flags width (start ++ numeral.digits)

/-- The arguments of a message: one after the other, or by name. -/
inductive Arguments where
  | listed (values : List Json)
  /-- `whole` is what a conversion without a name takes: all named arguments at once, and only if
  nothing has been taken before. -/
  | named (fields : Fields) (whole : Option Json)

def Arguments.take? (key : Option String) : Arguments → Option (Json × Arguments)
  | listed [] => none
  | listed (value :: rest) =>
    match key with
    | none => some (value, listed rest)
    | some _ => none
  | named fields whole =>
    match key with
    | none => whole.map (·, named fields none)
    | some name => (Fields.get? fields name).map (·, named fields none)

/-- A width or a precision, from the arguments where they give it. -/
def extent? (limit : Nat) (extent : Extent) (arguments : Arguments) :
    Option (Option Int × Arguments) :=
  match extent, arguments with
  | .none, arguments => some (none, arguments)
  | .fixed count, arguments => some (some (count : Int), arguments)
  | .given, .listed (value :: rest) =>
    (integral? value).bind fun count =>
      if limit < count.natAbs then none else some (some count, .listed rest)
  | .given, _ => none

def filled? (conversion : Conversion) (arguments : Arguments) :
    Option (List Char × Arguments) := do
  let (width, arguments) ← extent? widthLimit conversion.width arguments
  let (precision, arguments) ← extent? precisionLimit conversion.precision arguments
  let flags :=
    if (width.getD 0) < 0 then '-' :: conversion.flags else conversion.flags
  let width := (width.getD 0).natAbs
  let precision := precision.map Int.toNat
  let (argument, arguments) ← arguments.take? conversion.key
  match numeral? conversion.kind flags precision argument with
  | some numeral => return (numeral.layout flags width, arguments)
  | none => return (aligned flags width (← words? conversion.kind precision argument), arguments)

/-- The text of some pieces. Arguments in a row have to be used up. -/
def textOf? : List Piece → Arguments → Option (List Char)
  | [], .listed (_ :: _) => none
  | [], _ => some []
  | .text c :: rest, arguments => (textOf? rest arguments).map (c :: ·)
  | .place conversion :: rest, arguments =>
    match filled? conversion arguments with
    | none => none
    | some (text, arguments) => (textOf? rest arguments).map (text ++ ·)

/-- A message with its places filled. Without arguments it is taken as it is. -/
def fill? (message : String) (arguments : List Json) : Option String :=
  let filled (arguments : Arguments) : Option String := do
    let pieces ← pieces? (message.length + 1) message.toList
    return String.ofList (← textOf? pieces arguments)
  match arguments with
  | [] => some message
  | [.obj (field :: fields)] => filled (.named (field :: fields) (some (.obj (field :: fields))))
  | arguments => filled (.listed arguments)

end ChainFlow.Log
