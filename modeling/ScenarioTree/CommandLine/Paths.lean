import ScenarioTree.ModuleFile

/-! # Paths

A path names parts between slashes. Empty parts and single dots change nothing and are left out of
the plain form of a path; two dots lead up again.
-/

namespace ScenarioTree.CommandLine

/-- The parts of a text between slashes. -/
def splitParts : List Char → List (List Char)
  | [] => [[]]
  | c :: rest =>
    if c == '/' then [] :: splitParts rest
    else match splitParts rest with
      | [] => [[c]]
      | part :: others => (c :: part) :: others

/-- The parts of a path that change where it leads. -/
def pathParts (path : String) : List String :=
  ((splitParts path.toList).filter fun part => !part.isEmpty && part != ['.']).map String.ofList

/-- Whether a path starts at the root. -/
def isAbsolute (path : String) : Bool :=
  match path.toList with
  | '/' :: _ => true
  | _ => false

def plainPath (path : String) : String :=
  let parts := "/".intercalate (pathParts path)
  if isAbsolute path then "/" ++ parts
  else if parts.isEmpty then "." else parts

/-- Whether the last part of a path can only be a directory. -/
def needsDirectory (path : String) : Bool :=
  match (splitParts path.toList).getLast? with
  | none | some [] | some ['.'] => true
  | some _ => false

/-- Where a path has led so far, seen from a directory with at most one entry. -/
inductive Spot where
  /-- The root of all directories, which is its own parent. -/
  | root
  /-- So many levels above the directory; at level zero it is the directory itself. -/
  | above (levels : Nat)
  /-- The entry of the directory. -/
  | entry
deriving Repr, DecidableEq, Inhabited

/-- Where one more part leads. What else there is beside the directory and the way up is not known,
and counts as missing. -/
def Spot.step? (name : String) (file : ModuleFile) (spot : Spot) (part : String) : Option Spot :=
  match spot with
  | root => if part == ".." then some root else none
  | above levels =>
    if part == ".." then some (above (levels + 1))
    else if levels == 0 && part == name && !file.isMissing then some entry
    else none
  | entry => if part == ".." && file.isDirectory then some (above 0) else none

/-- What is found under a path in a directory with at most one entry, which has the given name. -/
def findFile (name : String) (file : ModuleFile) (path : String) : ModuleFile :=
  let start := if isAbsolute path then Spot.root else .above 0
  if path.isEmpty then .missing
  else match (pathParts path).foldlM (Spot.step? name file) start with
    | none => .missing
    | some .entry =>
      if needsDirectory path && !file.isDirectory then .missing else file
    | some _ => .directory

end ScenarioTree.CommandLine
