/-!
Authoring errors in the settings, and in the schemas that they go into.
-/

namespace Catalog.Setting

/-- Why the settings are refused. -/
inductive Fault
  | unknownType (key tag : String)
  | missingDescription (key : String)
  | unknownSplit (key mode : String)
  | invalid (key reason : String)
  | missingDefinition (name : String)
  deriving DecidableEq, Repr

/-- The message of a fault. -/
def Fault.message : Fault → String
  | unknownType key tag => s!"Unknown type '{tag}' for setting {key}"
  | missingDescription key => s!"Missing description for {key}"
  | unknownSplit key mode => s!"Unknown parse_env '{mode}' for setting {key}"
  | invalid key reason => s!"Invalid setting {key}: {reason}"
  | missingDefinition name => s!"Schema document has no {name} definition"

end Catalog.Setting
