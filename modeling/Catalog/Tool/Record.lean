import Catalog.Json.Document
import Catalog.Log
import Catalog.Tool.Source

/-!
Tool records: what the documentation shows of a tool, and the findings about it.
-/

namespace Catalog.Tool

/-- A backend of a tool with the page of its package. The name is empty if the descriptor has
another form, and the page is empty if there is none. -/
structure Link where
  name : String
  url : String
  platforms : List String := []
  deriving DecidableEq, Repr

/-- One tool. The operating systems are in ascending order. -/
structure Record where
  name : String
  aliases : List String := []
  backends : List Link := []
  os : List String := []
  description : Option String := none
  deriving DecidableEq, Repr

/-- The link of a backend. -/
def Link.ofEntry (entry : BackendEntry) : Link :=
  { name := entry.spec.full
    url := entry.spec.url
    platforms := entry.platforms }

/-- The kind of the backend: what stands before the first colon of the name. -/
def Link.kind? (link : Link) : Option Backend.Kind :=
  (Text.cut? ':' link.name.toList).map fun (tag, _) => .ofTag (String.ofList tag)

/-- The record of a tool. No backend is dropped. -/
def Record.build (name : String) (source : Source) : Record :=
  { name
    aliases := source.aliases
    backends := source.backends.map Link.ofEntry
    os := Sorted.setOf source.os
    description := source.description }

/-- A link as JSON; platforms are left out if there are none. -/
def Link.toJson (link : Link) : Json :=
  .obj <| [("name", .str link.name), ("url", .str link.url)]
    ++ if link.platforms = [] then [] else [("platforms", .strings link.platforms)]

/-- A record as JSON; a description is left out if there is none. -/
def Record.toJson (record : Record) : Json :=
  .obj <|
    [("short", .str record.name),
      ("aliases", .strings record.aliases),
      ("backends", .arr (record.backends.map Link.toJson)),
      ("os", .strings record.os)]
    ++ (record.description.map fun text => ("description", Json.str text)).toList

/-- A finding about a tool. -/
def warning (tool message : String) : Warning :=
  ⟨"registry", tool, message⟩

/-- The finding about a backend at a position, if there is one. -/
def Link.finding? (tool : String) (position : Nat) (link : Link) : Option Warning :=
  match link.kind? with
  | none =>
    some (warning tool s!"backend #{position} is not a valid prefix:slug descriptor")
  | some (.unknown tag) => some (warning tool s!"unknown backend prefix: {tag}")
  | some kind =>
    if link.url = "" && kind ≠ .http then
      some (warning tool s!"no url could be resolved for {link.name}")
    else none

/-- The findings about a record: that it has no backends, and those about each backend in order. -/
def Record.findings (record : Record) : List Warning :=
  (if record.backends = [] then [warning record.name "tool has no backends"] else [])
    ++ (record.backends.zipIdx 1).filterMap fun (link, position) =>
      link.finding? record.name position

/-- The findings about a list of records. -/
def findings (records : List Record) : List Warning :=
  records.flatMap Record.findings

end Catalog.Tool
