import Catalog.Setting.Entry

/-!
The settings as JSON schema: the properties that go into the main schema, the definitions that the
task schema shares with it, and the schema of the settings that are read early.
-/

namespace Catalog.Setting

/-- A setting as a property. Only what is authored shows, so no default that is worked out. -/
def Element.schema (element : Element) : Json :=
  .obj <|
    [("type", element.shape.schemaType)]
    ++ member? "default" element.literal
    ++ [("description", .str element.description)]
    ++ deprecatedMember element.deprecated
    ++ member? "enum" (element.allowed.map .arr)
    ++ member? "items" (element.shape.items?.map typeReference)
    ++ member? "additionalProperties" (element.shape.additional?.map typeReference)

/-- The key of a member within its group: the part behind the key of the group and a dot. -/
def memberName (group key : String) : String :=
  match (group.toList ++ ['.']).isPrefixOf? key.toList with
  | some rest => String.ofList rest
  | none => key

/-- A group as a closed object. -/
def Group.schema (group : Group) : Json :=
  .obj <|
    [("type", .str "object"),
      ("additionalProperties", .bool group.additionalProperties)]
    ++ member? "description" (group.description.map .str)
    ++ deprecatedMember group.deprecated
    ++ [("properties", .obj <| Keyed.ofPairs <|
        group.settings.map fun element => (memberName group.key element.key, element.schema))]

/-- An entry as a property. -/
def Entry.schema : Entry → Json
  | leaf element => element.schema
  | group g => g.schema

/-- The properties of all entries, hidden ones included. -/
def properties (entries : List Entry) : List (String × Json) :=
  Keyed.ofPairs (entries.map fun entry => (entry.key, entry.schema))

/-- The key of an entry with its property, if it is a single setting that is read early. -/
def Entry.rcProperty? : Entry → Option (String × Json)
  | leaf element => if element.rc then some (element.key, element.schema) else none
  | group _ => none

/-- The properties of the settings that are read early. -/
def rcProperties (entries : List Entry) : List (String × Json) :=
  Keyed.ofPairs (entries.filterMap Entry.rcProperty?)

/-- The schema of the settings that are read early. -/
def rcSchema (entries : List Entry) : Json :=
  .obj
    [("$schema", .str "https://json-schema.org/draft/2020-12/schema"),
      ("title", .str "mise rc config"),
      ("description", .str <|
        "Early initialization settings for mise. These settings are loaded before the main "
          ++ "config files."),
      ("type", .str "object"),
      ("additionalProperties", .bool false),
      ("properties", .obj (rcProperties entries))]

/-- Puts properties into the settings definition of the main schema. -/
def mergeProperties (schema : Json) (properties : List (String × Json)) : Except Fault Json :=
  match schema.get? "$defs" with
  | some defs =>
    match defs.get? "settings" with
    | some (.obj settings) =>
      .ok (schema.set "$defs"
        (defs.set "settings" (.obj (Keyed.put settings "properties" (.obj properties)))))
    | _ => .error (.missingDefinition "$defs.settings")
  | none => .error (.missingDefinition "$defs.settings")

/-- The definitions that the task schema shares with the main schema. -/
def sharedDefinitions : List String :=
  ["env_directive", "env", "task_run_entry", "task"]

/-- Copies a definition of the main schema, if it is there. -/
def copyDefinition (main : Json) (definitions : List (String × Json)) (name : String) :
    List (String × Json) :=
  match (main.get? "$defs").bind (·.get? name) with
  | some definition => Keyed.put definitions name definition
  | none => definitions

/-- Copies the shared definitions of the main schema into the task schema. -/
def syncDefinitions (main task : Json) : Except Fault Json :=
  match task.get? "$defs" with
  | some (.obj definitions) =>
    .ok (task.set "$defs" (.obj (sharedDefinitions.foldl (copyDefinition main) definitions)))
  | _ => .error (.missingDefinition "$defs")

end Catalog.Setting
