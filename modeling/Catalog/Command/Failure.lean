import Catalog.Setting.Entry

/-!
Why a run fails.
-/

namespace Catalog

/-- The cause of a failed run, with what was being done. -/
inductive Failure
  /-- The tools cannot be loaded. -/
  | registry (path : String) (cause : LoadFault)
  /-- The settings cannot be loaded. -/
  | settings (path : String) (cause : Setting.LoadingFault)
  /-- A schema cannot be loaded. -/
  | document (cause : LoadFault)
  /-- A schema lacks a definition. -/
  | definition (cause : Setting.Fault)
  /-- The program that manages the tools cannot be called. -/
  | missingProgram (program : String)
  /-- The call for a listing fails. -/
  | listing (message : String)
  /-- A directory cannot be created. -/
  | create (path : String) (cause : FileFault)
  /-- A file cannot be written. -/
  | write (path : String) (cause : FileFault)
  deriving DecidableEq, Repr

namespace Failure

/-- The messages of a failure, from what was being done to the first cause. -/
def messages : Failure → List String
  | registry path cause => s!"failed to load registry from {path}" :: cause.chain
  | settings path cause => s!"failed to load settings from {path}" :: cause.chain
  | document cause => cause.chain
  | definition cause => [cause.message]
  | missingProgram program => [s!"{program} not found on PATH (set --mise or MISE_BIN)"]
  | listing message => ["failed to list the mise registry", message]
  | create path cause => [s!"failed to create {path}", cause.message]
  | write path cause => [s!"failed to write {path}", cause.message]

/-- The messages in one line. -/
def line (failure : Failure) : String :=
  String.intercalate ": " failure.messages

end Failure

end Catalog
