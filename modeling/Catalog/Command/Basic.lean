import Catalog.Suggestion.Generator

/-!
The commands of the program with their options.
-/

namespace Catalog

/-- How the tools are written. -/
inductive Format
  | json
  | markdown
  deriving DecidableEq, Repr

/-- A shell that completion scripts are written for. -/
inductive Shell
  | bash
  | elvish
  | fish
  | powershell
  | zsh
  deriving DecidableEq, Repr

namespace Format

/-- The name of a format. -/
def name : Format → String
  | json => "json"
  | markdown => "markdown"

/-- The format of a name. -/
def ofName? (text : String) : Option Format :=
  [json, markdown].find? (·.name = text)

end Format

namespace Shell

/-- The name of a shell. -/
def name : Shell → String
  | bash => "bash"
  | elvish => "elvish"
  | fish => "fish"
  | powershell => "powershell"
  | zsh => "zsh"

/-- The shell of a name. -/
def ofName? (text : String) : Option Shell :=
  [bash, elvish, fish, powershell, zsh].find? (·.name = text)

end Shell

/-- A command. Without an output file its result goes to standard output. -/
inductive Command
  | registry (format : Format) (output : Option String)
  | registryTable (output : Option String)
  | settings (output : Option String)
  | schema
  | suggest (generators : List Suggestion.Generator)
  | completions (shell : Shell)
  | version
  deriving DecidableEq, Repr

/-- A command with the options that all commands share: the root of the documentation, the program
that manages the tools, and whether details are shown. -/
structure Invocation where
  root : Option String
  program : String
  verbose : Bool
  command : Command
  deriving DecidableEq, Repr

end Catalog
