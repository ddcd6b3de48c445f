import Catalog.Json.Document

/-!
The types of settings: the tags that authors write, and the fewer types that the documentation and
the JSON schema show for them.
-/

namespace Catalog.Setting

/-- A type as authored. -/
inductive Kind
  | string
  | path
  | url
  | duration
  | bool
  | integer
  | listString
  | listPath
  | setString
  | stringMap
  | boolOrString
  deriving DecidableEq, Repr

/-- A type as shown. -/
inductive Shape
  | string
  | boolean
  | number
  | stringArray
  | object
  | booleanOrString
  deriving DecidableEq, Repr

/-- The kind a bare tag names. -/
def Kind.ofBareTag? (tag : String) : Option Kind :=
  match tag with
  | "String" => some .string
  | "Path" => some .path
  | "PathBuf" => some .path
  | "Url" => some .url
  | "Duration" => some .duration
  | "Bool" => some .bool
  | "Integer" => some .integer
  | "ListString" => some .listString
  | "ListPath" => some .listPath
  | "SetString" => some .setString
  | "IndexMap<String, String>" => some .stringMap
  | "BoolOrString" => some .boolOrString
  | _ => none

/-- The front of a tag for a setting that may be unset. -/
def optionFront : List Char :=
  "Option<".toList

/-- Whether a tag starts as one for a setting that may be unset. -/
def isOptionTag (tag : String) : Bool :=
  optionFront.isPrefixOf tag.toList

/-- The tag between `Option<` and `>`, or the tag itself if it is not written that way. -/
def bareTag (tag : String) : String :=
  match optionFront.isPrefixOf? tag.toList with
  | some rest => if rest.getLast? = some '>' then String.ofList rest.dropLast else tag
  | none => tag

/-- The kind a tag names, bare or wrapped once. -/
def Kind.ofTag? (tag : String) : Option Kind :=
  Kind.ofBareTag? (bareTag tag)

/-- The type shown for a kind. -/
def Kind.shape : Kind → Shape
  | string | path | url | duration => .string
  | bool => .boolean
  | integer => .number
  | listString | listPath | setString => .stringArray
  | stringMap => .object
  | boolOrString => .booleanOrString

namespace Shape

/-- The name shown in the documentation. -/
def name : Shape → String
  | string => "string"
  | boolean => "boolean"
  | number => "number"
  | stringArray => "string[]"
  | object => "object"
  | booleanOrString => "boolean|string"

/-- The type in the JSON schema. -/
def schemaType : Shape → Json
  | stringArray => .str "array"
  | booleanOrString => .strings ["boolean", "string"]
  | shape => .str shape.name

/-- The type of the items of a list. -/
def items? : Shape → Option String
  | stringArray => some "string"
  | _ => none

/-- The type of the values of a map. -/
def additional? : Shape → Option String
  | object => some "string"
  | _ => none

end Shape

/-- A reference to a type. -/
def typeReference (name : String) : Json :=
  .obj [("type", .str name)]

end Catalog.Setting
