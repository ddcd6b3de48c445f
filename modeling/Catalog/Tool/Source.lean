import Catalog.Backend.Kind
import Catalog.Toml.Document
import Catalog.Toml.Printer

/-!
Tools as authored. A value of the wrong type counts as left out, and what is wrong in one field or
item does not touch the others.
-/

namespace Catalog.Tool

open Toml (Value)

/-- A backend as authored. -/
inductive BackendEntry
  /-- A descriptor. -/
  | descriptor (raw : String)
  /-- A descriptor with platforms and options beside it. -/
  | structured (full : String) (platforms : List String) (options : Backend.Options)
  /-- Anything else; it keeps its place in the list. -/
  | malformed
  deriving DecidableEq

/-- A tool as authored. -/
structure Source where
  aliases : List String := []
  backends : List BackendEntry := []
  os : List String := []
  description : Option String := none
  deriving DecidableEq

/-- A field whose value may have any type. It can be read unless a marked table in it gives no
date-time. -/
def field? (value : Option Value) : Option (Option Value) :=
  value.mapM Value.resolved?

/-- The items of an array that can be read. Any other value counts as an array without items. -/
def readable {α : Type} (read? : Value → Option α) : Option Value → List α
  | some (.array items) => items.filterMap read?
  | _ => []

/-- The texts among the items of an array. -/
def texts : Option Value → List String :=
  readable Value.text?

/-- The text of an option: a text itself, and any other value as it is written. -/
def optionText (value : Value) : String :=
  match value.text? with
  | some text => text
  | none => value.undated.inline

/-- The options in a table. -/
def optionTable : Option Value → Backend.Options
  | some (.table entries) => .ofPairs (entries.map fun (name, value) => (name, optionText value))
  | _ => .empty

/-- A backend with its fields, if the descriptor is a text. -/
def structured? (full platforms options : Option Value) : Option BackendEntry := do
  let full ← full.bind Value.text?
  return .structured full (texts (← field? platforms)) (optionTable (← field? options))

/-- Reads a backend from its fields: those of a table, or the items of an array in order. -/
def BackendEntry.ofFields? : Value → Option BackendEntry
  | .table entries =>
    let field := Keyed.get? entries
    structured? (field "full") (field "platforms") (field "options")
  | .array items =>
    if items.length ≤ 3 then structured? items[0]? items[1]? items[2]? else none
  | _ => none

/-- Reads a backend in the first form that fits: a descriptor, then one with fields, then any other
value. -/
def BackendEntry.read? (value : Value) : Option BackendEntry :=
  value.text?.map .descriptor
    <|> BackendEntry.ofFields? value
    <|> value.resolved?.map fun _ => .malformed

/-- A tool with its fields. -/
def Source.ofFields (aliases backends os : Option Value) (description : Option String) : Source :=
  { aliases := texts aliases
    backends := readable BackendEntry.read? backends
    os := texts os
    description }

/-- Reads a tool from its fields, which may have any types. -/
def Source.ofFields? (aliases backends os description : Option Value) : Option Source := do
  return .ofFields (← field? aliases) (← field? backends) (← field? os)
    ((← field? description).bind Value.text?)

/-- Reads a tool from a table of its fields, or from an array of them in order. -/
def Source.read? : Value → Option Source
  | .table entries =>
    let field := Keyed.get? entries
    Source.ofFields? (field "aliases") (field "backends") (field "os") (field "description")
  | .array items =>
    if items.length ≤ 4 then Source.ofFields? items[0]? items[1]? items[2]? items[3]? else none
  | _ => none

/-- Reads a tool from the value under its name. A value that cannot be read is a tool without
anything. -/
def Source.ofValue (value : Value) : Source :=
  (Source.read? value).getD {}

/-- Reads a tool from its table. -/
def Source.ofTable (entries : Toml.Table) : Source :=
  .ofValue (.table entries)

/-- The names of the fields of a tool. -/
def fieldNames : List String :=
  ["aliases", "backends", "os", "description"]

/-- Reads a tool from a document of its own. There a date-time is no description, and only the
fields of a tool can go wrong. -/
def Source.ofDocument (document : Toml.Table) : Except Toml.Fault Source := do
  let field := Keyed.get? (← Toml.resolve (document.filter (·.1 ∈ fieldNames)))
  return .ofFields (field "aliases") (field "backends") (field "os")
    ((field "description").bind Value.string?)

namespace BackendEntry

/-- The descriptor as authored; empty if there is none. -/
def raw : BackendEntry → String
  | descriptor raw => raw
  | structured full _ _ => full
  | malformed => ""

/-- The platforms that the backend is restricted to; none means all. -/
def platforms : BackendEntry → List String
  | structured _ platforms _ => platforms
  | _ => []

/-- The parsed descriptor, with the options beside it as defaults. -/
def spec (entry : BackendEntry) : Backend.Descriptor :=
  match entry with
  | structured full _ options => (Backend.Descriptor.parse full).withDefaults options
  | entry => Backend.Descriptor.parse entry.raw

end BackendEntry

end Catalog.Tool
