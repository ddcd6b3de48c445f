import Catalog.Json.Rows
import Catalog.Suggestion.Basic
import Catalog.Text.Split

/-!
Generators of suggestions. Each asks the tool manager for one listing and reads its output: as
lines, the first word of which is a name, or as JSON rows. Blank lines do not count, and neither
does white space around a line.
-/

namespace Catalog.Suggestion

/-- What suggestions are made from. -/
inductive Generator
  | registry
  | backends
  | installed
  | plugins
  | tasks
  | settings
  | configPaths
  | shellAliases
  deriving DecidableEq, Repr

namespace Generator

/-- All generators. -/
def all : List Generator :=
  [registry, backends, installed, plugins, tasks, settings, configPaths, shellAliases]

/-- The name of a generator on the command line. -/
def name : Generator → String
  | registry => "registry"
  | backends => "backends"
  | installed => "installed"
  | plugins => "plugins"
  | tasks => "tasks"
  | settings => "settings"
  | configPaths => "config-paths"
  | shellAliases => "shell-aliases"

/-- The generator of a name. -/
def ofName? (text : String) : Option Generator :=
  all.find? (·.name = text)

/-- The arguments that ask for the listing. -/
def arguments : Generator → List String
  | registry => ["registry"]
  | backends => ["backends", "ls"]
  | installed => ["ls", "--installed"]
  | plugins => ["plugins", "--all"]
  | tasks => ["tasks", "-J"]
  | settings => ["settings", "--keys"]
  | configPaths => ["config", "ls", "-J"]
  | shellAliases => ["shell-alias", "ls", "--no-header"]

end Generator

/-- A line of a listing as words: a name and what follows it. -/
abbrev WordRow := String × List String

/-- The words of each line. -/
def wordRows (text : String) : List WordRow :=
  (Text.rows text.toList).filterMap fun row =>
    match (Text.words row).map String.ofList with
    | [] => none
    | name :: rest => some (name, rest)

/-- The lines as they are. -/
def plainRows (text : String) : List String :=
  (Text.rows text.toList).map String.ofList

/-- Keeps the first row of each name. -/
def addFirst (rows : List WordRow) (row : WordRow) : List WordRow :=
  if Keyed.has rows row.1 then rows else rows ++ [row]

/-- The tools of a registry, each once, with the first backend of its first row. -/
def ofRegistry (text : String) : List Suggestion :=
  ((wordRows text).foldl addFirst []).map fun (name, rest) =>
    { name, description := rest.head? }

/-- Adds the version of a row, if it has one, to those of its tool. -/
def addVersion (tools : List WordRow) (row : WordRow) : List WordRow :=
  Keyed.put tools row.1 ((Keyed.get? tools row.1).getD [] ++ row.2.head?.toList)

/-- A tool with its installed versions. With several versions one of them has to follow the name. -/
def ofVersions (name : String) (versions : List String) : Suggestion :=
  match versions with
  | [] => { name }
  | [version] => { name, description := some version }
  | versions => { name := name ++ "@", description := some (String.intercalate ", " versions) }

/-- The installed tools in the order of their first rows. -/
def ofInstalled (text : String) : List Suggestion :=
  ((wordRows text).foldl addVersion []).map fun (name, versions) => ofVersions name versions

/-- The aliases with their commands. -/
def ofAliases (text : String) : List Suggestion :=
  (wordRows text).map fun (name, rest) =>
    { name, description := if rest = [] then none else some (String.intercalate " " rest) }

/-- The shape of a task. -/
def taskShape : Json.RowShape :=
  ⟨"TaskRow", [⟨"name", false⟩, ⟨"description", true⟩]⟩

/-- The shape of a configuration file. -/
def configShape : Json.RowShape :=
  ⟨"ConfigRow", [⟨"path", false⟩]⟩

/-- The suggestion for a task. An empty description counts as none. -/
def ofTaskRow : Json.Row → Option Suggestion
  | [some name, description] => some { name, description := description.filter (· ≠ "") }
  | _ => none

/-- The suggestion for a configuration file, which describes itself. -/
def ofConfigRow : Json.Row → Option Suggestion
  | [some path] => some { name := path, description := some path }
  | _ => none

/-- Why the output of a listing is refused. -/
structure ListingFault where
  listing : String
  cause : Json.Fault
  deriving DecidableEq, Repr

/-- The message of a fault, ended by its cause. -/
def ListingFault.message (fault : ListingFault) : String :=
  s!"failed to parse {fault.listing} list JSON: {fault.cause.message}"

/-- Reads JSON rows. -/
def ofJson (listing : String) (shape : Json.RowShape) (ofRow : Json.Row → Option Suggestion)
    (text : String) : Except ListingFault (List Suggestion) :=
  match Json.parseRows shape text with
  | .ok rows => .ok (rows.filterMap ofRow)
  | .error cause => .error { listing, cause }

/-- Reads the output of the listing that a generator asked for. -/
def Generator.read (generator : Generator) (text : String) :
    Except ListingFault (List Suggestion) :=
  match generator with
  | registry => .ok (ofRegistry text)
  | backends => .ok ((plainRows text).map fun name => { name, description := some "Backend" })
  | installed => .ok (ofInstalled text)
  | plugins | settings => .ok ((plainRows text).map fun name => { name })
  | tasks => ofJson "task" taskShape ofTaskRow text
  | configPaths => ofJson "config" configShape ofConfigRow text
  | shellAliases => .ok (ofAliases text)

end Catalog.Suggestion
