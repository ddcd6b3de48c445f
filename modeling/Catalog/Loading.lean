import Catalog.FileTree
import Catalog.Json.Reader
import Catalog.Toml.Document

/-!
Loading source documents from files.
-/

namespace Catalog

/-- Why a source document cannot be loaded. -/
inductive LoadFault
  | notFound (path : String)
  | unreadable (path : String) (fault : FileFault)
  | invalidToml (path : String) (fault : Toml.Fault)
  | invalidJson (path : String) (fault : Json.Fault)
  | missingSection (name : String)
  deriving DecidableEq, Repr

namespace LoadFault

/-- The message of a fault. -/
def message : LoadFault → String
  | notFound path => s!"Source not found: {path}"
  | unreadable path fault => s!"IO error reading {path}: {fault.message}"
  | invalidToml path fault => s!"Invalid TOML in {path}: {fault.message}"
  | invalidJson path fault => s!"Invalid JSON in {path}: {fault.message}"
  | missingSection name => s!"Missing required section [{name}]"

/-- The messages of a fault and of what caused it. -/
def chain : LoadFault → List String
  | unreadable path fault => [(unreadable path fault).message, fault.message]
  | fault => [fault.message]

end LoadFault

namespace Loading

/-- The text of a source file. -/
def text (tree : FileTree) (path : String) : Except LoadFault String :=
  if (tree.find? path).isNone then .error (.notFound path)
  else (tree.read path).mapError (.unreadable path)

/-- The table of a TOML file, without a look at tables that are marked as date-times. -/
def plainTable (tree : FileTree) (path : String) : Except LoadFault Toml.Table := do
  (Toml.parsePlain (← text tree path)).mapError (.invalidToml path)

/-- The table of a TOML file. -/
def table (tree : FileTree) (path : String) : Except LoadFault Toml.Table := do
  (Toml.parse (← text tree path)).mapError (.invalidToml path)

/-- The document of a JSON file. -/
def json (tree : FileTree) (path : String) : Except LoadFault Json := do
  (Json.parse (← text tree path)).mapError (.invalidJson path)

end Loading

end Catalog
