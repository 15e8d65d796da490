/-!
# Paths

The plainest form of a path: without empty parts and parts that are a single dot. Two slashes at the
beginning, no more and no fewer, are kept as two.
-/

namespace ChainFlow.Text

def slashParts : List Char → List (List Char)
  | [] => [[]]
  | '/' :: rest => [] :: slashParts rest
  | c :: rest =>
    match slashParts rest with
    | part :: parts => (c :: part) :: parts
    | [] => [[c]]

def pathRoot (path : List Char) : List Char :=
  match (path.takeWhile (· = '/')).length with
  | 0 => []
  | 2 => ['/', '/']
  | _ => ['/']

def plainPath (path : List Char) : List Char :=
  let parts := (slashParts path).filter fun part => part ≠ [] ∧ part ≠ ['.']
  let plain := pathRoot path ++ (parts.intersperse ['/']).flatten
  if plain.isEmpty then ['.'] else plain

end ChainFlow.Text
