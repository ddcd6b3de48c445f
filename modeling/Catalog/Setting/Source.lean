import Catalog.Setting.Fault
import Catalog.Toml.Value

/-!
Settings and groups as authored. Unlike tools they are read strictly: an unknown field, or a value
of the wrong type, is an error, and of several errors the first one in the table counts.
-/

namespace Catalog.Setting

open Toml (Value Table)

/-- A mark that something is deprecated: a flag or a note. -/
inductive Deprecation
  | flag (value : Bool)
  | note (text : String)
  deriving DecidableEq, Repr

/-- Whether the mark deprecates. An empty note does not. -/
def Deprecation.isSet : Deprecation → Bool
  | flag value => value
  | note text => text ≠ ""

/-- Reads a mark. -/
def Deprecation.ofValue? : Value → Option Deprecation
  | .boolean b => some (.flag b)
  | value => value.text?.map .note

/-- The flag a value holds. -/
def flag? : Value → Option Bool
  | .boolean b => some b
  | _ => none

/-- The items an array holds. -/
def items? : Value → Option (List Value)
  | .array items => some items
  | _ => none

theorem items?_eq_some_iff {list : Value} {items : List Value} :
    items? list = some items ↔ list = .array items := by
  cases list <;> simp [items?]

/-- What a field of a table has to hold. -/
inductive FieldType
  | text
  | flag
  | list
  | mark
  | anything
  deriving DecidableEq, Repr

/-- The complaint about a value that is not of the type. -/
def complaint (value : Value) (expected : String) : String :=
  s!"invalid type: {value.phrase}, expected {expected}"

/-- The complaint about the value of a field, if there is one. -/
def FieldType.complaint? (type : FieldType) (value : Value) : Option String :=
  match type with
  | text => if value.text?.isSome then none else some (complaint value "a string")
  | flag => if (flag? value).isSome then none else some (complaint value "a boolean")
  | list => if (items? value).isSome then none else some (complaint value "a sequence")
  | mark =>
    if (Deprecation.ofValue? value).isSome then none
    else some "data did not match any variant of untagged enum Deprecation"
  | anything => none

/-- The fields of a setting in the order in which messages list them. -/
def settingFields : List (String × FieldType) :=
  [("type", .text), ("description", .text), ("docs", .text), ("default", .anything),
    ("docs_default", .text), ("optional", .flag), ("hide", .flag), ("rc", .flag), ("enum", .list),
    ("env", .text), ("parse_env", .text), ("deprecated", .mark)]

/-- The fields of a group. All other keys of its table are its members. -/
def groupFields : List (String × FieldType) :=
  [("description", .text), ("deprecated", .mark), ("hide", .flag)]

/-- The complaint about a field that settings do not have. -/
def unknownField (name : String) : String :=
  let known := settingFields.map fun (field, _) => "`" ++ field ++ "`"
  "unknown field `" ++ name ++ "`, expected one of " ++ String.intercalate ", " known

/-- The complaint about an entry of the table of a setting, if there is one. -/
def settingComplaint? (name : String) (value : Value) : Option String :=
  match Keyed.get? settingFields name with
  | some type => type.complaint? value
  | none => some (unknownField name)

/-- The complaint about an entry of the table of a group, if there is one. -/
def groupComplaint? (name : String) (value : Value) : Option String :=
  (Keyed.get? groupFields name).bind (·.complaint? value)

/-- A setting as authored. -/
structure Source where
  typeTag : Option String
  description : Option String
  docs : Option String
  default : Option Value
  docsDefault : Option String
  optional : Bool
  hide : Bool
  rc : Bool
  allowed : Option (List Value)
  env : Option String
  parseEnv : Option String
  deprecated : Option Deprecation

/-- Reads the table of a setting. The default and the items of the list of allowed values are taken as
they are, also a table whose first key marks a date-time: no table of a loaded document holds one, as
all of them are replaced when the document is loaded. -/
def Source.ofTable (key : String) (table : Table) : Except Fault Source :=
  match table.findSome? fun (name, value) => settingComplaint? name value with
  | some reason => .error (.invalid key reason)
  | none =>
    let field := Keyed.get? table
    let text (name : String) := (field name).bind Value.text?
    let flag (name : String) := ((field name).bind flag?).getD false
    .ok
      { typeTag := text "type"
        description := text "description"
        docs := text "docs"
        default := field "default"
        docsDefault := text "docs_default"
        optional := flag "optional"
        hide := flag "hide"
        rc := flag "rc"
        allowed := (field "enum").bind items?
        env := text "env"
        parseEnv := text "parse_env"
        deprecated := (field "deprecated").bind Deprecation.ofValue? }

/-- A group as authored. -/
structure GroupSource where
  description : Option String
  deprecated : Option Deprecation
  hide : Bool
  members : Table

/-- Reads the table of a group. -/
def GroupSource.ofTable (key : String) (table : Table) : Except Fault GroupSource :=
  match table.findSome? fun (name, value) => groupComplaint? name value with
  | some reason => .error (.invalid key reason)
  | none =>
    let field := Keyed.get? table
    .ok
      { description := (field "description").bind Value.text?
        deprecated := (field "deprecated").bind Deprecation.ofValue?
        hide := ((field "hide").bind flag?).getD false
        members := table.filter fun (name, _) => !Keyed.has groupFields name }

/-- The value that an item of a list of allowed values allows: an item in a table or an array stands
with a description, whose text is not kept. -/
def allowedValue? : Value → Option Value
  | .table entries =>
    match Keyed.get? entries "description" with
    | none => Keyed.get? entries "value"
    | some description =>
      if description.text?.isSome then Keyed.get? entries "value" else none
  | .array items => items.head?
  | value => some value

end Catalog.Setting
