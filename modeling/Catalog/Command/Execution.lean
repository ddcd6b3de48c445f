import Catalog.Command.Line
import Catalog.Command.Session
import Catalog.Json.Printer
import Catalog.Layout
import Catalog.Setting.Schema
import Catalog.Suggestion.Gathering
import Catalog.Tool.Listing
import Catalog.Tool.Registry

/-!
What each command does. The commands with one result first work it out by reading alone and then
write it, so nothing is written if they fail before. The command for the schemas writes one after
the other.
-/

namespace Catalog

open Run Suggestion

namespace Reading

/-- The tools, written in a format. -/
def registry (root : String) (format : Format) (tree : FileTree) : Reading String := do
  let path := Layout.registry tree root
  say (·.debug s!"root: {root}")
  say (·.stage "Loading registry")
  let tools ← check (Failure.registry path) (Tool.load tree path)
  say (·.info s!"{tools.length} tools")
  say (·.report (Tool.findings tools))
  match format with
  | .json => return (Json.arr (tools.map Tool.Record.toJson)).pretty
  | .markdown => return Tool.markdown tools

/-- The table of the tools that the tool manager lists. -/
def registryTable (programs : Programs) (program : String) : Reading String := do
  if !programs.finds program then throw (.missingProgram program)
  say (·.stage "Reading mise registry")
  let call : Call := ⟨program, ["registry"]⟩
  say (·.debug (callDetail call))
  let text ← check Failure.listing (programs.answer call)
  let tools := Tool.ofListing text
  let skipped := (Tool.skippedLines text).map fun line =>
    s!"skipping unrecognized registry line: {line}"
  say (·.details skipped)
  say (·.info s!"{tools.length} registry rows")
  return Tool.markdown tools

/-- The entries of the settings. -/
def entries (root : String) (tree : FileTree) : Reading (List Setting.Entry) := do
  let path := Layout.settings root
  say (·.debug s!"root: {root}")
  say (·.stage "Loading settings")
  let entries ← check (Failure.settings path) (Setting.load tree path)
  say (·.report (Setting.findings entries))
  return entries

/-- The documentation of the settings. -/
def settings (root : String) (tree : FileTree) : Reading String := do
  let visible := Setting.visible (← entries root tree)
  let count := (visible.flatMap Setting.Entry.elements).length
  say (·.info s!"{visible.length} entries, {count} settings")
  return (Json.arr (visible.map Setting.Entry.toJson)).pretty

/-- The main schema with the settings in it. -/
def mainSchema (root : String) (entries : List Setting.Entry) (tree : FileTree) : Reading Json := do
  say (·.stage "Updating JSON schema")
  let schema ← check Failure.document (Loading.json tree (Layout.mainSchema root))
  let properties := Setting.properties entries
  say (·.debug s!"{properties.length} settings properties")
  check Failure.definition (Setting.mergeProperties schema properties)

/-- The task schema with the definitions of the main one, if there is a task schema. -/
def taskSchema (root : String) (main : Json) (tree : FileTree) : Reading (Option Json) := do
  let path := Layout.taskSchema root
  if tree.isFile path then
    let schema ← check Failure.document (Loading.json tree path)
    return some (← check Failure.definition (Setting.syncDefinitions main schema))
  else
    say (·.debug s!"no task schema at {path}")
    return none

/-- Suggestions from generators. -/
def suggestions (programs : Programs) (program : String) (generators : List Generator) :
    Reading String := do
  let names := String.intercalate ", " (generators.map Generator.name)
  say (·.debug s!"generators: {names}")
  let gathered := gather programs program generators
  say (·.details gathered.details)
  say (·.debug s!"{gathered.suggestions.length} suggestions")
  return (Json.arr (gathered.suggestions.map Suggestion.toJson)).pretty

end Reading

/-- The name of this program. -/
def programName : String :=
  "docgen"

/-- The line with the version. -/
def versionLine (version : String) : String :=
  s!"{programName} {version}\n"

/-- Brings the schemas up to date. -/
def Run.schema (root : String) : Run Unit := do
  let entries ← look (Reading.entries root)
  let main ← look (Reading.mainSchema root entries)
  writeFile (Layout.mainSchema root) main.pretty
  match ← look (Reading.taskSchema root main) with
  | some task => writeFile (Layout.taskSchema root) task.pretty
  | none => pure ()
  writeFile (Layout.rcSchema root) (Setting.rcSchema entries).pretty

/-- Runs a command. -/
def Invocation.run (machine : Machine) (invocation : Invocation) : Run Unit := do
  let root := invocation.root.getD Layout.defaultRoot
  let programs := machine.programs
  let program := invocation.program
  match invocation.command with
  | .registry format output => writeOutput output (← look (Reading.registry root format))
  | .registryTable output =>
    writeOutput output (← look fun _ => Reading.registryTable programs program)
  | .settings output => writeOutput output (← look (Reading.settings root))
  | .schema => Run.schema root
  | .suggest generators => print (← look fun _ => Reading.suggestions programs program generators)
  | .completions shell => print (machine.completions shell)
  | .version => print (versionLine machine.version)

/-- What comes of a command line with a fault. Help and the version are printed on request; any
other fault is an error in the use of the program. -/
def CommandLine.Fault.outcome (fault : CommandLine.Fault) (machine : Machine)
    (arguments : List String) : Outcome :=
  let (stdout, stderr, code) :=
    match fault with
    | .help => (machine.notice arguments, [], 0)
    | .version => (versionLine machine.version, [], 0)
    | _ => ("", [machine.notice arguments], 2)
  { tree := machine.tree, stdout, stderr, code }

/-- Runs a command line. The program that manages the tools may be given outside the line. -/
def Machine.execute (machine : Machine) (program : Option String) (arguments : List String) :
    Outcome :=
  match CommandLine.parse program arguments with
  | .ok invocation => (invocation.run machine).outcome machine.tree invocation.verbose
  | .error fault => fault.outcome machine arguments

end Catalog
