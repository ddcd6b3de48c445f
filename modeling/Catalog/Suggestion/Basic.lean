import Catalog.Json.Document

/-!
Suggestions for the completion of a command line.
-/

namespace Catalog

/-- One suggestion. Without a priority the shell ranks it as it likes. -/
structure Suggestion where
  name : String
  description : Option String := none
  priority : Option Nat := none
  deriving DecidableEq, Repr

namespace Suggestion

/-- The priority of errors: they rank below all that was really found. -/
def errorPriority : Nat :=
  1

/-- The suggestion that stands for an error. -/
def ofError (message : String) : Suggestion :=
  { name := "error", description := some message, priority := some errorPriority }

/-- Whether a suggestion stands for an error. A name alone does not tell. -/
def isError (suggestion : Suggestion) : Bool :=
  suggestion.priority.isSome

/-- A suggestion as JSON; what is absent is left out. -/
def toJson (suggestion : Suggestion) : Json :=
  .obj <|
    [("name", .str suggestion.name)]
    ++ (suggestion.description.map fun text => ("description", Json.str text)).toList
    ++ (suggestion.priority.map fun rank => ("priority", Json.int rank)).toList

end Suggestion

end Catalog
