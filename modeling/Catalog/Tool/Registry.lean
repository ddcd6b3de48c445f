import Catalog.Collation
import Catalog.Loading
import Catalog.Tool.Record

/-!
Loading all tools: from one document with a table for each tool, or from a directory with a document
for each tool. Either way the records come in the order of their names.
-/

namespace Catalog.Tool

/-- Records in the order of their names. -/
def sorted (records : List Record) : List Record :=
  Collation.sortBy Record.name records

/-- The records of a table of tools. -/
def ofTools (tools : Toml.Table) : List Record :=
  sorted (tools.map fun (name, value) => .build name (.ofValue value))

/-- The tools of a registry document. A date-time where their table is expected counts as a table
with its mark. -/
def tools (path : String) (document : Toml.Table) : Except LoadFault Toml.Table :=
  match Keyed.get? document "tools" with
  | none => .error (.missingSection "tools")
  | some (.table tools) => (Toml.resolve tools).mapError (.invalidToml path)
  | some (.datetime d) => .ok [(Toml.datetimeKey, .datetime d)]
  | some other => .error (.invalidToml path (.mistyped "tools" other.phrase "a map"))

/-- Loads the tools of one document. -/
def loadDocument (tree : FileTree) (path : String) : Except LoadFault (List Record) := do
  return ofTools (← tools path (← Loading.plainTable tree path))

/-- Loads a tool from a file in a directory. The file names the tool. -/
def loadTool (tree : FileTree) (directory name : String) : Except LoadFault Record := do
  let path := Path.join directory name
  let source ← (Source.ofDocument (← Loading.plainTable tree path)).mapError (.invalidToml path)
  return .build (Path.stem name) source

/-- Loads the tools of a directory, each from a file of its own. -/
def loadDirectory (tree : FileTree) (path : String) : Except LoadFault (List Record) := do
  let names ← (tree.filesWith path "toml").mapError (.unreadable path)
  return sorted (← names.mapM (loadTool tree path))

/-- Loads all tools. -/
def load (tree : FileTree) (path : String) : Except LoadFault (List Record) :=
  if tree.isDirectory path then loadDirectory tree path else loadDocument tree path

end Catalog.Tool
