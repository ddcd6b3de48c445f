import Catalog.Collation
import Catalog.Json.Printer
import Catalog.Loading
import Catalog.Log
import Catalog.Setting.Element

/-!
The entries of the settings: single settings and groups of settings, in the order of their keys.
-/

namespace Catalog.Setting

open Toml (Value Table)

/-- A group of settings, in authored order. A group is closed: it admits no other members. -/
structure Group where
  key : String
  description : Option String
  deprecated : Bool
  hide : Bool
  settings : List Element

/-- An entry at the top of the settings. -/
inductive Entry
  | leaf (element : Element)
  | group (group : Group)

/-- Whether a group admits members that it does not list. -/
def Group.additionalProperties (_ : Group) : Bool :=
  false

namespace Entry

/-- The key of an entry. -/
def key : Entry → String
  | leaf element => element.key
  | group g => g.key

/-- The settings of an entry. -/
def elements : Entry → List Element
  | leaf element => [element]
  | group g => g.settings

end Entry

/-- The table at a key of the settings. -/
def expectTable (key : String) (value : Value) : Except Fault Table :=
  match value.table? with
  | some table => .ok table
  | none => .error (.invalid key "expected a table")

/-- The key of a member of a group. -/
def memberKey (group name : String) : String :=
  group ++ "." ++ name

/-- Builds a group from its table. -/
def Group.build (key : String) (table : Table) : Except Fault Group := do
  let source ← GroupSource.ofTable key (Value.undatedEntries table)
  let settings ← source.members.mapM fun (name, value) => do
    Element.build (memberKey key name) (← expectTable (memberKey key name) value)
  return {
    key
    description := source.description
    deprecated := source.deprecated.any Deprecation.isSet
    hide := source.hide
    settings }

/-- Builds an entry: a single setting if its table has a type, and else a group. -/
def Entry.build (key : String) (value : Value) : Except Fault Entry := do
  let table ← expectTable key value
  if Keyed.has table "type" then return .leaf (← Element.build key table)
  else return .group (← Group.build key table)

/-- The entries of a settings document in the order of their keys. The first entry with an error
counts. -/
def build (document : Table) : Except Fault (List Entry) := do
  let entries ← document.mapM fun (key, value) => Entry.build key value
  return Collation.sortBy Entry.key entries

/-- Why the settings cannot be loaded. -/
inductive LoadingFault
  | load (fault : LoadFault)
  | schema (fault : Fault)
  deriving DecidableEq, Repr

namespace LoadingFault

/-- The message of a fault. -/
def message : LoadingFault → String
  | load fault => "Load error: " ++ fault.message
  | schema fault => "Schema error: " ++ fault.message

/-- The messages of a fault and of what caused it. -/
def chain : LoadingFault → List String
  | load fault => (load fault).message :: fault.chain
  | schema fault => [(schema fault).message, fault.message]

end LoadingFault

/-- Loads the settings. -/
def load (tree : FileTree) (path : String) : Except LoadingFault (List Entry) := do
  let document ← (Loading.table tree path).mapError .load
  (build document).mapError .schema

/-- An entry as the documentation lists it: without hidden settings, and nothing if it is hidden or
has no other settings. -/
def Entry.visible? : Entry → Option Entry
  | leaf element => if element.hide then none else some (.leaf element)
  | group g =>
    let settings := g.settings.filter (!·.hide)
    if g.hide || settings.isEmpty then none else some (.group { g with settings })

/-- The entries that the documentation lists. -/
def visible (entries : List Entry) : List Entry :=
  entries.filterMap Entry.visible?

/-- A group as the documentation shows it. -/
def Group.toJson (group : Group) : Json :=
  .obj <|
    [("key", .str group.key)]
    ++ member? "description" (group.description.map .str)
    ++ [("additionalProperties", .bool group.additionalProperties)]
    ++ deprecatedMember group.deprecated
    ++ [("settings", .arr (group.settings.map Element.toJson))]

/-- An entry as the documentation shows it. -/
def Entry.toJson : Entry → Json
  | leaf element => element.toJson
  | group g => g.toJson

/-- What the names of environment variables start with. -/
def envFront : String :=
  "MISE_"

/-- A finding about a setting. -/
def warning (key message : String) : Warning :=
  ⟨"settings", key, message⟩

/-- The finding that a default is none of the allowed values. -/
def defaultFinding (element : Element) : List Warning :=
  match element.literal, element.allowed with
  | some literal, some allowed =>
    if allowed.any (·.same literal) then []
    else [warning element.key s!"default {literal.compact} is not one of the enum values"]
  | _, _ => []

/-- The finding that an environment variable has an unusual name. -/
def envFinding (element : Element) : List Warning :=
  match element.env with
  | some env =>
    if envFront.toList.isPrefixOf env.name.toList then []
    else [warning element.key s!"env var {env.name} does not start with {envFront}"]
  | none => []

/-- The findings about the settings, in order. -/
def findings (entries : List Entry) : List Warning :=
  (entries.flatMap Entry.elements).flatMap fun element =>
    defaultFinding element ++ envFinding element

end Catalog.Setting
