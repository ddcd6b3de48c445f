import Catalog.Setting.Kind
import Catalog.Setting.Source
import Catalog.Text.Blank

/-!
A single setting, ready for the documentation: checked, with its default worked out.
-/

namespace Catalog.Setting

open Toml (Value Table)

/-- The default shown for a setting. -/
inductive Default
  /-- Authored text, shown as it is. -/
  | docs (text : String)
  /-- A value. -/
  | value (json : Json)
  /-- The setting may be unset and has no default. -/
  | absent

/-- How the value of an environment variable is split into a list. -/
inductive Split
  | singular
  | comma
  | colon
  deriving DecidableEq, Repr

/-- The name of a way to split. -/
def Split.name : Split → String
  | singular => "singular"
  | comma => "comma"
  | colon => "colon"

/-- The way to split that a mode names. -/
def Split.ofMode (key mode : String) : Except Fault Split :=
  match mode with
  | "list_by_comma" => .ok .comma
  | "list_by_colon" => .ok .colon
  | _ => .error (.unknownSplit key mode)

/-- An environment variable that sets a setting. -/
structure Binding where
  name : String
  split : Split
  deriving DecidableEq, Repr

/-- A setting. The literal default is what the JSON schema shows. -/
structure Element where
  key : String
  shape : Shape
  default : Option Default
  description : String
  docs : String
  deprecated : Bool
  allowed : Option (List Json)
  env : Option Binding
  optional : Bool
  literal : Option Json
  hide : Bool
  rc : Bool

/-- The default to show, and whether the setting is shown as one that may be unset. Authored text
comes first and marks the setting as set; then the literal default, `false` for a required boolean,
an empty list for a required list, and the mark of absence for a setting that may be unset. -/
def shownDefault (shape : Shape) (literal : Option Json) (docsDefault : Option String)
    (optional : Bool) : Option Default × Bool :=
  match docsDefault with
  | some text => (some (.docs text), false)
  | none =>
    let default :=
      match literal, shape, optional with
      | some json, _, _ => some (.value json)
      | none, .boolean, false => some (.value (.bool false))
      | none, .stringArray, false => some (.value (.arr []))
      | none, _, true => some .absent
      | none, _, false => none
    (default, optional)

/-- The values that a list of items allows. Each item has to hold one. -/
def allowedValues (key : String) (items : List Value) : Except Fault (List Json) :=
  items.mapM fun item =>
    match allowedValue? item with
    | some value => .ok value.toJson
    | none => .error (.invalid key "enum item has no value")

/-- The binding to an environment variable. Without a mode the value is not split. -/
def binding (key name : String) (mode : Option String) : Except Fault Binding := do
  match mode with
  | some mode => return ⟨name, ← Split.ofMode key mode⟩
  | none => return ⟨name, .singular⟩

/-- The shape of a setting by its type tag. -/
def Source.shape (source : Source) (key : String) : Except Fault (String × Shape) :=
  match source.typeTag with
  | none => .error (.invalid key "missing type")
  | some tag =>
    match Kind.ofTag? tag with
    | none => .error (.unknownType key tag)
    | some kind => .ok (tag, kind.shape)

/-- The description of a setting, which must not be blank. -/
def Source.requiredDescription (source : Source) (key : String) : Except Fault String :=
  match source.description with
  | some text =>
    if Text.allBlank text.toList then .error (.missingDescription key) else .ok text
  | none => .error (.missingDescription key)

/-- Builds a setting from its source. -/
def Element.ofSource (key : String) (source : Source) : Except Fault Element := do
  let (tag, shape) ← source.shape key
  let description ← source.requiredDescription key
  let literal := source.default.map Value.toJson
  let (default, optional) :=
    shownDefault shape literal source.docsDefault (source.optional || isOptionTag tag)
  let allowed ← source.allowed.mapM (allowedValues key)
  let env ← source.env.mapM fun name => binding key name source.parseEnv
  return {
    key, shape, default, description
    docs := source.docs.getD description
    deprecated := source.deprecated.any Deprecation.isSet
    allowed, env, optional, literal
    hide := source.hide
    rc := source.rc }

/-- Builds a setting from its table, in which a date-time counts as its text. -/
def Element.build (key : String) (table : Table) : Except Fault Element := do
  Element.ofSource key (← Source.ofTable key (Value.undatedEntries table))

/-- The text that marks a default as absent. -/
def absentText : String :=
  "None"

/-- A default as JSON. -/
def Default.toJson : Default → Json
  | docs text => .str text
  | value json => json
  | absent => .str absentText

/-- A binding as JSON. -/
def Binding.toJson (binding : Binding) : Json :=
  .obj [("name", .str binding.name), ("parse", .str binding.split.name)]

/-- A member of an object that is there only if it has a value. -/
def member? (name : String) (value : Option Json) : List (String × Json) :=
  (value.map fun json => (name, json)).toList

/-- The mark of something deprecated; nothing if it is not. -/
def deprecatedMember (deprecated : Bool) : List (String × Json) :=
  if deprecated then [("deprecated", .bool true)] else []

theorem get?_member? (name : String) (value : Option Json) (key : String) :
    Keyed.get? (member? name value) key = if name = key then value else none := by
  cases value <;> simp [member?, Keyed.get?]

theorem get?_deprecatedMember (deprecated : Bool) {key : String} (h : "deprecated" ≠ key) :
    Keyed.get? (deprecatedMember deprecated) key = none := by
  cases deprecated <;> simp [deprecatedMember, Keyed.get?, h]

/-- A setting as the documentation shows it. -/
def Element.toJson (element : Element) : Json :=
  .obj <|
    [("key", .str element.key), ("type", .str element.shape.name)]
    ++ member? "default" (element.default.map Default.toJson)
    ++ [("description", .str element.description), ("docs", .str element.docs)]
    ++ deprecatedMember element.deprecated
    ++ member? "enum" (element.allowed.map .arr)
    ++ member? "env" (element.env.map Binding.toJson)
    ++ [("optional", .bool element.optional)]
    ++ member? "items" (element.shape.items?.map typeReference)
    ++ member? "additionalProperties" (element.shape.additional?.map typeReference)

end Catalog.Setting
