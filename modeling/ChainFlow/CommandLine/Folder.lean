import ChainFlow.Fault
import ChainFlow.Text.Path

/-!
# Folders

The files that the program finds, by their paths below the folder that it is started in. A path is
followed part by part from the left, and the first part that cannot be followed is the fault. Of
what stands around the folder no more is known than that there are folders above it, and that a
system has certain folders at its root.
-/

namespace ChainFlow.CommandLine

structure Folder where
  files : List (String × String)

namespace Folder

abbrev Part := List Char

/-- The most bytes that a part of a path may have. -/
def partLimit : Nat := 255

/-- The number of bytes that a path has to stay below. -/
def pathLimit : Nat := 4096

def rootFolders : List String := ["bin", "boot", "dev", "etc", "home", "lib", "media", "mnt", "opt",
  "proc", "root", "run", "sbin", "srv", "sys", "tmp", "usr", "var"]

inductive Place where
  /-- A folder below the one that the program is started in, by the parts that lead to it. -/
  | inside (parts : List Part)
  | above
  | root
  | atRoot
  | file (text : String)

inductive Obstacle where
  | missing
  | notAFolder
  | tooLong

def child? (folder : Folder) (parts : List Part) : Option Place :=
  let path := (parts.intersperse ['/']).flatten
  match folder.files.lookup (String.ofList path) with
  | some text => some (.file text)
  | none =>
    if folder.files.any fun file => (path ++ ['/']).isPrefixOf file.1.toList then
      some (.inside parts)
    else none

def follow (folder : Folder) (place : Place) (part : Part) : Except Obstacle Place :=
  let found (place : Option Place) : Except Obstacle Place :=
    match place with
    | some place => .ok place
    | none => if partLimit < Text.byteCount part then .error .tooLong else .error .missing
  match place, part with
  | .file _, _ => .error .notAFolder
  | .inside [], ['.', '.'] => .ok .above
  | .inside parts, ['.', '.'] => .ok (.inside parts.dropLast)
  | .above, ['.', '.'] => .ok .above
  | .root, ['.', '.'] => .ok .root
  | .atRoot, ['.', '.'] => .ok .root
  | .inside parts, part => found (folder.child? (parts ++ [part]))
  | .root, part => found (if rootFolders.contains (String.ofList part) then some .atRoot else none)
  | .above, _ => found none
  | .atRoot, _ => found none

def followAll (folder : Folder) (place : Place) : List Part → Except Obstacle Place
  | [] => .ok place
  | part :: rest =>
    match folder.follow place part with
    | .ok place => followAll folder place rest
    | .error obstacle => .error obstacle

def Obstacle.fault (name : String) : Obstacle → Fault
  | missing => .noFile name
  | notAFolder => .notAFolder name
  | tooLong => .nameTooLong name

def read (folder : Folder) (path : String) : Except Fault String :=
  let plain := Text.plainPath path.toList
  let name := String.ofList plain
  match Text.unencodable? Text.standsForByte plain with
  | some found => .error (.notUtf8 found)
  | none =>
    if plain.contains '\x00' then .error .nullInName
    else if pathLimit ≤ Text.byteCount plain then .error (.nameTooLong name)
    else
      let start : Place := if plain.head? = some '/' then .root else .inside []
      let parts := (Text.slashParts plain).filter fun part => part ≠ [] ∧ part ≠ ['.']
      match folder.followAll start parts with
      | .ok (.file text) => .ok text
      | .ok _ => .error (.isDirectory name)
      | .error obstacle => .error (obstacle.fault name)

end Folder

end ChainFlow.CommandLine
