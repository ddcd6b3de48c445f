import Catalog.FileTree

/-!
Where the sources and the results lie below the root of the documentation.
-/

namespace Catalog.Layout

/-- The root if none is given: the current directory. -/
def defaultRoot : String :=
  "."

/-- The source of the tools: a directory of documents if it is there, and else one document. -/
def registry (tree : FileTree) (root : String) : String :=
  let directory := Path.join root "registry"
  if tree.isDirectory directory then directory else Path.join root "registry.toml"

/-- The source of the settings. -/
def settings (root : String) : String :=
  Path.join root "settings.toml"

/-- A JSON schema. -/
def inSchema (root name : String) : String :=
  Path.join (Path.join root "schema") name

/-- The main schema, which the settings go into. -/
def mainSchema (root : String) : String :=
  inSchema root "mise.json"

/-- The schema of tasks, which shares definitions with the main one. -/
def taskSchema (root : String) : String :=
  inSchema root "mise-task.json"

/-- The schema of the settings that are read early. -/
def rcSchema (root : String) : String :=
  inSchema root "miserc.json"

end Catalog.Layout
