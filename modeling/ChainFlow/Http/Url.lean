import ChainFlow.Http.Host
import ChainFlow.Text.Quoted
import ChainFlow.Text.Whole

/-!
# Addresses

An address in its parts: scheme, user, host, port, path, query and fragment. `read` takes a text
apart and brings each part into its plainest form; `text` puts an address together. `below` is the
address of a path under another address.
-/

namespace ChainFlow.Http

structure Url where
  scheme : List Char
  user : List Char
  host : List Char
  port : Option Int
  path : List Char
  query : Option (List Char)
  fragment : Option (List Char)

inductive UrlDefect where
  | tooLong
  | partTooLong (part : String)
  | control (c : Char) (place : Nat)
  | host (defect : HostDefect) (text : List Char)
  | port (text : List Char)
  /-- A path behind a host begins with something else than a slash. -/
  | looseAfterHost
  | doubleSlash
  | leadingColon
  /-- Half of a surrogate pair. -/
  | unencodable (c : Char)
  deriving DecidableEq

/-- The words for a defect, but for those of a character that cannot be encoded. -/
def UrlDefect.message : UrlDefect → String
  | tooLong => "URL too long"
  | partTooLong part => s!"URL component '{part}' too long"
  | control c place =>
    let shown := String.ofList (Text.quoted [c])
    s!"Invalid non-printable ASCII character in URL, {shown} at position {place}."
  | host defect text =>
    let kind := match defect with
      | .fourNumbers => "IPv4 address"
      | .versionSix => "IPv6 address"
      | .name => "IDNA hostname"
    let shown := String.ofList (Text.quoted text)
    s!"Invalid {kind}: {shown}"
  | port text =>
    let shown := String.ofList (Text.quoted text)
    s!"Invalid port: {shown}"
  | looseAfterHost => "For absolute URLs, path must be empty or begin with '/'"
  | doubleSlash => "Relative URLs cannot have a path starting with '//'"
  | leadingColon => "Relative URLs cannot have a path starting with ':'"
  | unencodable _ => ""

namespace Url

/-! ## Taking apart -/

/-- The most characters of an address, and of each of its parts. -/
def lengthLimit : Nat := 65536

structure Parts where
  scheme : List Char
  authority : List Char
  path : List Char
  query : Option (List Char)
  fragment : Option (List Char)

/-- A text up to a character, and what follows it if it is there. -/
def cut (mark : Char) (text : List Char) : List Char × Option (List Char) :=
  match text.dropWhile (· ≠ mark) with
  | [] => (text, none)
  | _ :: rest => (text.takeWhile (· ≠ mark), some rest)

/-- Whether a text can be a scheme; the empty one can. -/
def isScheme : List Char → Bool
  | [] => true
  | c :: rest => c.isAlpha && rest.all fun c => c.isAlphanum || c == '+' || c == '.' || c == '-'

def Parts.ofText (text : List Char) : Parts :=
  let (scheme, rest) :=
    match cut ':' text with
    | (scheme, some rest) => if isScheme scheme then (scheme, rest) else ([], text)
    | (_, none) => ([], text)
  let (rest, fragment) := cut '#' rest
  let (rest, query) := cut '?' rest
  let (authority, path) :=
    match rest with
    | '/' :: '/' :: rest => (rest.takeWhile (· ≠ '/'), rest.dropWhile (· ≠ '/'))
    | path => ([], path)
  ⟨scheme, authority, path, query, fragment⟩

/-- User, host and port of an authority, each without its mark. -/
def authorityParts (authority : List Char) : List Char × List Char × List Char :=
  let reversed := authority.reverse
  let (user, rest) :=
    if authority.contains '@' then
      (((reversed.dropWhile (· ≠ '@')).drop 1).reverse, (reversed.takeWhile (· ≠ '@')).reverse)
    else ([], authority)
  let host :=
    if rest.head? = some '[' ∧ rest.contains ']' then (rest.reverse.dropWhile (· ≠ ']')).reverse
    else rest.takeWhile (· ≠ ':')
  let port := match rest.drop host.length with
    | ':' :: port => port
    | port => port
  (user, host, port)

/-! ## Plainest forms -/

def isPlain (c : Char) : Bool :=
  0x20 < c.toNat && c.toNat < 0x7F && !(['"', '<', '>'].contains c)

def inFragment (c : Char) : Bool := isPlain c && c != '\x60'

def inQuery (c : Char) : Bool := isPlain c && c != '#'

def inPath (c : Char) : Bool := inQuery c && !(['?', '\x60', '\x7b', '\x7d'].contains c)

def inUser (c : Char) : Bool := inPath c && !"/;=@[\\]^|".toList.contains c

def plainPart (inSet : Char → Bool) (part : List Char) : Except UrlDefect (List Char) :=
  match part.find? Text.isLone with
  | some c => .error (.unencodable c)
  | none => .ok (Percent.encode inSet part)

def schemePort? (scheme : List Char) : Option Int :=
  [("ftp", 21), ("http", 80), ("https", 443), ("ws", 80), ("wss", 443)].lookup
    (String.ofList scheme)

/-- The port of an address, none where the scheme stands for it. -/
def readPort (scheme port : List Char) : Except UrlDefect (Option Int) :=
  if port.isEmpty then .ok none
  else
    match Text.whole port with
    | .ok value => .ok (if schemePort? scheme = some value then none else some value)
    | .error _ => .error (.port port)

/-- The segments of a path without those that stand for a place: one dot for the same, two for the
one before. -/
def plainSegments (segments : List (List Char)) : List (List Char) :=
  segments.foldl (fun before segment =>
    if segment = ['.'] then before
    else if segment = ['.', '.'] then (if before = [[]] then before else before.dropLast)
    else before ++ [segment]) []

/-- A path without segments that stand for a place. -/
def plainPath (path : List Char) : List Char :=
  ((plainSegments (Host.splitAt '/' path)).intersperse ['/']).flatten

def ofParts (parts : Parts) : Except UrlDefect Url := do
  let (user, host, port) := authorityParts parts.authority
  let user ← plainPart inUser user
  let host ← match Host.read host with
    | .ok host => .ok host
    | .error defect => .error (.host defect host)
  let port ← readPort parts.scheme port
  let hasAuthority := !user.isEmpty || !host.isEmpty || port.isSome
  let isRelative := parts.scheme.isEmpty && !hasAuthority
  if hasAuthority && !parts.path.isEmpty && parts.path.head? ≠ some '/' then
    .error .looseAfterHost
  if isRelative && parts.path.take 2 = ['/', '/'] then .error .doubleSlash
  if isRelative && parts.path.head? = some ':' then .error .leadingColon
  let path ← plainPart inPath (if isRelative then parts.path else plainPath parts.path)
  let query ← parts.query.mapM (plainPart inQuery)
  let fragment ← parts.fragment.mapM (plainPart inFragment)
  return ⟨parts.scheme.map Char.toLower, user, host, port, path, query, fragment⟩

def isControl (c : Char) : Bool := c.toNat < 0x20 || c.toNat == 0x7F

def read (text : List Char) : Except UrlDefect Url :=
  if lengthLimit < text.length then .error .tooLong
  else
    match text.find? isControl with
    | some c => .error (.control c (text.takeWhile (· ≠ c)).length)
    | none => ofParts (.ofText text)

/-! ## Putting together -/

def location (url : Url) : List Char :=
  (if url.host.contains ':' then '[' :: url.host ++ [']'] else url.host) ++
    match url.port with
    | some port => ':' :: Text.integer port
    | none => []

def authority (url : Url) : List Char :=
  (if url.user.isEmpty then [] else url.user ++ ['@']) ++ url.location

def marked (mark : Char) : Option (List Char) → List Char
  | some part => mark :: part
  | none => []

def text (url : Url) : List Char :=
  (if url.scheme.isEmpty then [] else url.scheme ++ [':']) ++
    (if url.authority.isEmpty then [] else '/' :: '/' :: url.authority) ++
    url.path ++ marked '?' url.query ++ marked '#' url.fragment

def target (url : Url) : List Char :=
  (if url.path.isEmpty then ['/'] else url.path) ++ marked '?' url.query

def Parts.checkLengths (parts : Parts) : Except UrlDefect Unit :=
  let lengths := [("scheme", parts.scheme.length), ("authority", parts.authority.length),
    ("path", parts.path.length), ("query", (parts.query.map (·.length)).getD 0),
    ("fragment", (parts.fragment.map (·.length)).getD 0)]
  match lengths.find? fun (_, length) => lengthLimit < length with
  | some (part, _) => .error (.partTooLong part)
  | none => .ok ()

def withTarget (url : Url) (target : List Char) : Except UrlDefect Url := do
  let (path, query) := cut '?' target
  let parts : Parts := ⟨url.scheme, url.authority, path, query, url.fragment⟩
  parts.checkLengths
  ofParts parts

/-- The address that ends in a slash, its fragment apart. -/
def folder (url : Url) : Except UrlDefect Url :=
  if url.target.getLast? = some '/' then .ok url else url.withTarget (url.target ++ ['/'])

def below (url : Url) (path : List Char) : Except UrlDefect Url :=
  url.withTarget (url.target ++ path.dropWhile (· = '/'))

def hasType (url : Url) : Bool :=
  match cut ':' url.text with
  | (type, some _) => !type.isEmpty && !type.contains '/'
  | (_, none) => false

/-- The path with the characters that are written by their codes. -/
def plainTarget (url : Url) : List Char := Percent.decode (if url.path.isEmpty then ['/'] else url.path)

end Url

end ChainFlow.Http
