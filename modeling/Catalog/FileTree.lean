import Catalog.Keyed
import Catalog.Path
import Catalog.Sorted
import Catalog.Text.Utf8

/-!
A tree of directories and files in memory, with the operations on paths that the commands need and
the reasons for which they fail. An entry is stored under its location, the names that lead to it
from the root.
-/

namespace Catalog

/-- The names on the way from the root. -/
abbrev Location := List String

/-- Why an operation on files fails. -/
inductive FileFault
  | notFound
  | fileExists
  | notDirectory
  | isDirectory
  | nameTooLong
  | notUtf8
  deriving DecidableEq, Repr

/-- The message of a fault, as operating systems word it. -/
def FileFault.message : FileFault → String
  | notFound => "No such file or directory (os error 2)"
  | fileExists => "File exists (os error 17)"
  | notDirectory => "Not a directory (os error 20)"
  | isDirectory => "Is a directory (os error 21)"
  | nameTooLong => "File name too long (os error 36)"
  | notUtf8 => "stream did not contain valid UTF-8"

/-- A directory or a file. -/
inductive FileEntry
  | directory
  | file (content : ByteArray) (executable : Bool)

/-- The entries below the root, and the location that relative paths start from. -/
structure FileTree where
  entries : List (Location × FileEntry)
  current : Location

namespace FileTree

/-- The entry at a location. The root is a directory. -/
def at? (tree : FileTree) (location : Location) : Option FileEntry :=
  if location = [] then some .directory else Keyed.get? tree.entries location

/-- Sets the entry at a location. -/
def put (tree : FileTree) (location : Location) (entry : FileEntry) : FileTree :=
  { tree with entries := Keyed.put tree.entries location entry }

/-- The most bytes a name may have. -/
def nameLimit : Nat :=
  255

/-- The most bytes a path may have. -/
def pathLimit : Nat :=
  4095

/-- Goes one segment of a path further. Only a directory leads on; empty segments and single dots
stay in it, and double dots go up. -/
def descend (tree : FileTree) (location : Location) (segment : String) :
    Except FileFault Location :=
  match tree.at? location with
  | none => .error .notFound
  | some (.file _ _) => .error .notDirectory
  | some .directory =>
    if nameLimit < segment.utf8ByteSize then .error .nameTooLong
    else .ok (Path.advance location segment)

/-- Goes along the segments of a path, from the root or from the current location. -/
def walk (tree : FileTree) (path : String) (segments : List String) : Except FileFault Location :=
  if path = "" then .error .notFound
  else if pathLimit < path.utf8ByteSize then .error .nameTooLong
  else segments.foldlM tree.descend (if Path.isAbsolute path then [] else tree.current)

/-- The location of a path. All but its last segment have to lead through directories. -/
def locate (tree : FileTree) (path : String) : Except FileFault Location :=
  tree.walk path (Path.segments path)

/-- The entry a path leads to. -/
def find? (tree : FileTree) (path : String) : Option FileEntry :=
  match tree.locate path with
  | .ok location => tree.at? location
  | .error _ => none

/-- Whether a path leads to a directory. -/
def isDirectory (tree : FileTree) (path : String) : Bool :=
  tree.find? path matches some .directory

/-- Whether a path leads to a file. -/
def isFile (tree : FileTree) (path : String) : Bool :=
  tree.find? path matches some (.file _ _)

/-- Whether a path leads to a file that can be executed. -/
def isExecutable (tree : FileTree) (path : String) : Bool :=
  tree.find? path matches some (.file _ true)

/-- The text of a file. -/
def read (tree : FileTree) (path : String) : Except FileFault String := do
  match tree.at? (← tree.locate path) with
  | none => throw .notFound
  | some .directory => throw .isDirectory
  | some (.file content _) =>
    match Text.ofUtf8? content with
    | some text => return text
    | none => throw .notUtf8

/-- The names in the directory at a location. -/
def children (tree : FileTree) (location : Location) : List String :=
  tree.entries.filterMap fun (place, _) =>
    match location.isPrefixOf? place with
    | some [name] => some name
    | _ => none

/-- The names of the files in a directory that have a given extension, in ascending order. A file
counts if the path of its name leads to it, so not if that path is too long. -/
def filesWith (tree : FileTree) (directory extension : String) :
    Except FileFault (List String) := do
  let location ← tree.locate directory
  match tree.at? location with
  | none => throw .notFound
  | some (.file _ _) => throw .notDirectory
  | some .directory =>
    return Sorted.setOf <| (tree.children location).filter fun name =>
      Path.extension? name = some extension && tree.isFile (Path.join directory name)

/-- Creates a directory whose parent is there. -/
def makeDirectory (tree : FileTree) (path : String) : Except FileFault FileTree := do
  let location ← tree.locate path
  match tree.at? location with
  | none => return tree.put location .directory
  | some _ => throw .fileExists

/-- Creates a directory, unless it is there. -/
def ensureDirectory (tree : FileTree) (path : String) : Except FileFault FileTree :=
  match tree.makeDirectory path with
  | .ok tree => .ok tree
  | .error fault => if tree.isDirectory path then .ok tree else .error fault

/-- The paths from the list that are missing, up to the first one that is not. -/
def missingFrom (tree : FileTree) : List String → Except FileFault (List String)
  | [] => .ok []
  | path :: above =>
    if path = "" then .ok []
    else
      match tree.makeDirectory path with
      | .ok _ => .ok [path]
      | .error .notFound => (tree.missingFrom above).map (path :: ·)
      | .error fault => if tree.isDirectory path then .ok [] else .error fault

/-- The directories to be created, one after the other, so that a path leads to a directory. -/
def missingDirectories (tree : FileTree) (path : String) : Except FileFault (List String) :=
  (tree.missingFrom (path :: Path.ancestors path)).map List.reverse

/-- The location of a file to be written. A path that ends in a slash names a directory, whether
there is one or not, if only the way to it exists. -/
def locateFile (tree : FileTree) (path : String) : Except FileFault Location := do
  let segments := Path.segments path
  if segments.getLast? ≠ some "" then tree.locate path
  else
    let above := ((segments.reverse.dropWhile (· = "")).drop 1).reverse
    let _ ← tree.walk path (above ++ [""])
    throw .isDirectory

/-- Writes a file whose directory is there. -/
def write (tree : FileTree) (path : String) (text : String) : Except FileFault FileTree := do
  let location ← tree.locateFile path
  match tree.at? location with
  | some .directory => throw .isDirectory
  | some (.file _ executable) => return tree.put location (.file text.toUTF8 executable)
  | none => return tree.put location (.file text.toUTF8 false)

/-- The files of a tree that are new or differ from an earlier tree, with their contents. -/
def changedSince (tree before : FileTree) : List (Location × ByteArray) :=
  tree.entries.filterMap fun (location, entry) =>
    match entry, before.at? location with
    | .directory, _ => none
    | .file content _, some (.file old _) =>
      if content == old then none else some (location, content)
    | .file content _, _ => some (location, content)

end FileTree

end Catalog
