import Catalog.Text.Split

/-!
Paths as text. They are kept as they were written, so that messages show them that way.
-/

namespace Catalog.Path

/-- The path of a name in a directory. The empty directory is the current one. -/
def join (directory name : String) : String :=
  if directory = "" then name
  else if directory.toList.getLast? = some '/' then directory ++ name
  else directory ++ "/" ++ name

/-- The segments between slashes. -/
def segments (path : String) : List String :=
  (path.toList.splitOnP (· = '/')).map String.ofList

/-- Whether a path starts at the root. -/
def isAbsolute (path : String) : Bool :=
  path.toList.head? = some '/'

/-- The components of a path: its segments without the empty ones and without single dots, except
for a single dot at the very front. The root is a component, too. -/
def components (path : String) : List String :=
  let named := (segments path).filter fun segment => segment ≠ "" && segment ≠ "."
  if isAbsolute path then "/" :: named
  else if (segments path).head? = some "." then "." :: named
  else named

/-- A reversed path without slashes and single dots at its end. -/
def trimRight : List Char → List Char
  | '/' :: rest => trimRight rest
  | '.' :: '/' :: rest => trimRight ('/' :: rest)
  | s => s

/-- The path without its last component; nothing for the empty path and the root. -/
def parent? (path : String) : Option String :=
  match trimRight path.toList.reverse with
  | [] => none
  | s =>
    match trimRight (s.dropWhile (· ≠ '/')) with
    | [] => some (if isAbsolute path then "/" else "")
    | rest => some (String.ofList rest.reverse)

/-- The paths above a path, from the nearest one, up to a bound on their number. -/
def ancestorsUpTo : Nat → String → List String
  | 0, _ => []
  | bound + 1, path =>
    match parent? path with
    | none => []
    | some above => above :: ancestorsUpTo bound above

/-- The paths above a path, from the nearest one. Each is shorter than the one before. -/
def ancestors (path : String) : List String :=
  ancestorsUpTo path.length path

/-- The place a segment leads to, if it leads anywhere: double dots go up. -/
def advance (place : List String) (segment : String) : List String :=
  if segment = "" || segment = "." then place
  else if segment = ".." then place.dropLast
  else place ++ [segment]

/-- The places on the way along a path from a starting point, with both ends. -/
def places (start : List String) (path : String) : List (List String) :=
  let start := if isAbsolute path then [] else start
  (segments path).foldl
    (fun passed segment => passed ++ [advance (passed.getLastD start) segment]) [start]

/-- The name of a file without its extension, and the extension: the part after the last dot, unless
the name starts with that dot. -/
def splitExtension (name : String) : String × Option String :=
  match Text.cut? '.' name.toList.reverse with
  | some (extension, c :: stem) =>
    (String.ofList (c :: stem).reverse, some (String.ofList extension.reverse))
  | _ => (name, none)

/-- The name of a file without its extension. -/
def stem (name : String) : String :=
  (splitExtension name).1

/-- The extension of the name of a file. -/
def extension? (name : String) : Option String :=
  (splitExtension name).2

end Catalog.Path
