import Catalog.Proofs.Result
import Catalog.Proofs.Toml.Undated
import Catalog.Setting.Schema

/-!
What the JSON schema takes from the table of a setting. Main statement: settings whose tables agree on
the type that is shown, the default, the description, the deprecation and the allowed values have the
same schema, so nothing else that was authored and no default that was worked out shows in it.
-/

namespace Catalog.Setting

open Toml (Value Table)

/-- The part of a setting that shows in the JSON schema. A value that cannot be read is nothing. -/
structure Authored where
  shape : Option Shape
  default : Option Json
  description : Option String
  deprecated : Bool
  allowed : Option (List (Option Json))

/-- The type that a type tag is shown as. -/
def shownShape? (tag : String) : Option Shape :=
  (Kind.ofTag? tag).map Kind.shape

/-- The values that the items of a list allow, without their descriptions. -/
def listedValues (items : List Value) : List (Option Json) :=
  items.map fun item => (allowedValue? item).map Value.toJson

/-- The part of a table that shows in the JSON schema. Of a deprecation it is only whether it is set. -/
def Authored.ofTable (table : Table) : Authored :=
  let field := Keyed.get? table
  { shape := ((field "type").bind Value.text?).bind shownShape?
    default := (field "default").map Value.toJson
    description := (field "description").bind Value.text?
    deprecated := ((field "deprecated").bind Deprecation.ofValue?).any Deprecation.isSet
    allowed := ((field "enum").bind items?).map listedValues }

/-- The part of a source that shows in the JSON schema. -/
def Source.authored (source : Source) : Authored where
  shape := source.typeTag.bind shownShape?
  default := source.default.map Value.toJson
  description := source.description
  deprecated := source.deprecated.any Deprecation.isSet
  allowed := source.allowed.map listedValues

/-- The part of a built setting that shows in the JSON schema. -/
def Element.authored (element : Element) : Authored where
  shape := some element.shape
  default := element.literal
  description := some element.description
  deprecated := element.deprecated
  allowed := element.allowed.map fun values => values.map some

theorem schema_eq_of_authored_eq {element other : Element} (h : element.authored = other.authored) :
    element.schema = other.schema := by
  obtain ⟨hshape, hdefault, hdescription, hdeprecated, hallowed⟩ := Authored.mk.inj h
  have hvalues : element.allowed = other.allowed := by
    refine Option.map_injective ?_ hallowed
    exact List.map_injective_iff.2 (Option.some_injective Json)
  rw [Element.schema, Element.schema, Option.some.inj hshape, hdefault, Option.some.inj hdescription,
    hdeprecated, hvalues]

theorem get?_default_schema (element : Element) :
    element.schema.get? "default" = element.literal := by
  simp [Element.schema, Json.get?_obj, Keyed.get?_append, Keyed.get?, get?_member?, get?_deprecatedMember]

/-! ### Date-times that count as texts -/

theorem ofValue?_undated (value : Value) :
    Deprecation.ofValue? value.undated = Deprecation.ofValue? value := by
  cases value <;> rfl

theorem allowedValue?_undated (item : Value) :
    allowedValue? item.undated = (allowedValue? item).map Value.undated := by
  cases item with
  | table entries =>
    simp only [Value.undated, allowedValue?, Value.get?_undatedEntries]
    cases Keyed.get? entries "description" with
    | none => rfl
    | some description =>
      simp only [Option.map_some, Value.text?_undated]
      split <;> rfl
  | array items => cases items <;> rfl
  | string | integer | float | boolean | datetime => rfl

theorem listedValues_undatedItems (items : List Value) :
    listedValues (Value.undatedItems items) = listedValues items := by
  rw [Value.undatedItems_eq_map, listedValues, List.map_map]
  refine List.map_congr_left fun item _ => ?_
  rw [Function.comp_apply, allowedValue?_undated, Option.map_map]
  exact congrArg (fun toJson => (allowedValue? item).map toJson) (funext Value.toJson_undated)

theorem listedValues_undated (list : Value) : (Option.map listedValues ∘ items?) list.undated
    = (Option.map listedValues ∘ items?) list := by
  cases list with
  | array items => exact congrArg some (listedValues_undatedItems items)
  | string | integer | float | boolean | datetime | table => rfl

theorem authored_undatedEntries (table : Table) :
    Authored.ofTable (Value.undatedEntries table) = Authored.ofTable table := by
  have hdefault : (Keyed.get? (Value.undatedEntries table) "default").map Value.toJson
      = (Keyed.get? table "default").map Value.toJson := by
    rw [Value.get?_undatedEntries, Option.map_map]
    exact congrArg (fun toJson => (Keyed.get? table "default").map toJson)
      (funext Value.toJson_undated)
  have hallowed : ((Keyed.get? (Value.undatedEntries table) "enum").bind items?).map listedValues
      = ((Keyed.get? table "enum").bind items?).map listedValues := by
    rw [Option.map_bind, Value.bind_get?_undatedEntries listedValues_undated, Option.map_bind]
  simp only [Authored.ofTable, hdefault, hallowed,
    Value.bind_get?_undatedEntries Value.text?_undated,
    Value.bind_get?_undatedEntries ofValue?_undated]

/-! ### Building -/

theorem authored_of_ofTable {key : String} {table : Table} {source : Source}
    (h : Source.ofTable key table = .ok source) : Authored.ofTable table = source.authored := by
  unfold Source.ofTable at h
  split at h
  · cases h
  · cases h
    rfl

theorem shape_eq_ok {source : Source} {key tag : String} {shape : Shape}
    (h : source.shape key = .ok (tag, shape)) : source.typeTag.bind shownShape? = some shape := by
  unfold Source.shape at h
  split at h
  · cases h
  · rename_i htag
    split at h
    · cases h
    · rename_i hkind
      cases h
      rw [htag, Option.bind_some, shownShape?, hkind, Option.map_some]

theorem requiredDescription_eq_ok {source : Source} {key description : String}
    (h : source.requiredDescription key = .ok description) : source.description = some description := by
  unfold Source.requiredDescription at h
  split at h
  · rename_i htext
    split at h
    · cases h
    · cases h
      exact htext
  · cases h

theorem allowedValues_eq_ok {key : String} {items : List Value} {values : List Json}
    (h : allowedValues key items = .ok values) : listedValues items = values.map some := by
  refine (Result.map_eq_of_mapM (fun item value hvalue => ?_) h).symm
  split at hvalue
  · rename_i hfound
    cases hvalue
    rw [hfound, Option.map_some]
  · cases hvalue

theorem authored_of_ofSource {key : String} {source : Source} {element : Element}
    (h : Element.ofSource key source = .ok element) : source.authored = element.authored := by
  simp only [Element.ofSource, Result.bind_eq_ok, Result.pure_eq_ok] at h
  obtain ⟨⟨tag, shape⟩, hshape, description, hdescription, allowed, hallowed, _, -, rfl⟩ := h
  have hvalues : source.allowed.map listedValues = allowed.map fun values => values.map some := by
    cases hitems : source.allowed with
    | none =>
      rw [hitems] at hallowed
      cases hallowed
      rfl
    | some items =>
      rw [hitems] at hallowed
      obtain ⟨values, hvalues, rfl⟩ := Result.map_eq_ok.1 hallowed
      rw [Option.map_some, Option.map_some, allowedValues_eq_ok hvalues]
  rw [Source.authored, Element.authored, shape_eq_ok hshape, requiredDescription_eq_ok hdescription,
    hvalues]

theorem authored_of_build {key : String} {table : Table} {element : Element}
    (h : Element.build key table = .ok element) : Authored.ofTable table = element.authored := by
  obtain ⟨source, hsource, helement⟩ := Result.bind_eq_ok.1 h
  rw [← authored_undatedEntries, authored_of_ofTable hsource, authored_of_ofSource helement]

theorem literal_of_build {key : String} {table : Table} {element : Element}
    (h : Element.build key table = .ok element) :
    element.literal = (Keyed.get? table "default").map Value.toJson :=
  (congrArg Authored.default (authored_of_build h)).symm

theorem listed_of_build {key : String} {table : Table} {element : Element}
    (h : Element.build key table = .ok element) :
    element.allowed.map (fun values => values.map some)
      = ((Keyed.get? table "enum").bind items?).map listedValues :=
  (congrArg Authored.allowed (authored_of_build h)).symm

/-! ### Type tags that may be unset -/

theorem bareTag_wrapped (tag : String) : bareTag ("Option<" ++ tag ++ ">") = tag := by
  have hcut : optionFront.isPrefixOf? ("Option<" ++ tag ++ ">").toList = some (tag.toList ++ ['>']) := by
    rw [List.isPrefixOf?_eq_some_iff_append_eq, String.toList_append, String.toList_append,
      List.append_assoc]
    rfl
  rw [bareTag, hcut]
  dsimp only
  rw [List.getLast?_concat, if_pos rfl, List.dropLast_concat, String.ofList_toList]

theorem bareTag_of_ofBareTag? {tag : String} {kind : Kind} (h : Kind.ofBareTag? tag = some kind) :
    bareTag tag = tag := by
  unfold Kind.ofBareTag? at h
  split at h
  all_goals cases h
  all_goals rfl

/-- A wrapped tag names the kind that the tag in it names. -/
theorem ofTag?_wrapped {tag : String} {kind : Kind} (h : Kind.ofBareTag? tag = some kind) :
    Kind.ofTag? ("Option<" ++ tag ++ ">") = Kind.ofTag? tag := by
  rw [Kind.ofTag?, Kind.ofTag?, bareTag_wrapped, bareTag_of_ofBareTag? h]

/-! ### The schema of a setting -/

/-- A setting has the same schema as any other whose table agrees on the type that is shown, the default,
the description, the deprecation and the allowed values, whatever else the two tables say. The schema has
a default if and only if one was authored, and it is that one. A tag that is wrapped as one for a setting
that may be unset is shown as the type in it. -/
theorem schema_of_authored {key : String} {table : Table} {element : Element}
    (h : Element.build key table = .ok element) :
    (∀ key' table' other, Element.build key' table' = .ok other →
        Authored.ofTable table' = Authored.ofTable table → other.schema = element.schema)
      ∧ element.schema.get? "default" = (Keyed.get? table "default").map Value.toJson
      ∧ ∀ tag kind, Kind.ofBareTag? tag = some kind →
        Kind.ofTag? ("Option<" ++ tag ++ ">") = Kind.ofTag? tag := by
  have hauthored := authored_of_build h
  refine ⟨?_, ?_, fun tag kind htag => ofTag?_wrapped htag⟩
  · intro key' table' other hother hsame
    refine schema_eq_of_authored_eq ?_
    rw [← authored_of_build hother, hsame, hauthored]
  · rw [get?_default_schema]
    exact (congrArg Authored.default hauthored).symm

/-- A setting with what the schema shows and nothing else. -/
def plainSetting : Table :=
  [("type", .string "Bool"), ("description", .string "Quiet"), ("default", .boolean true),
    ("enum", .array [.boolean true, .boolean false]), ("deprecated", .boolean true)]

/-- The same setting with every other field, notes and descriptions, and a type that may be unset. -/
def annotatedSetting : Table :=
  [("docs", .string "Long"), ("docs_default", .string "depends"), ("type", .string "Option<Bool>"),
    ("description", .string "Quiet"), ("default", .boolean true), ("optional", .boolean true),
    ("hide", .boolean true), ("rc", .boolean true), ("env", .string "MISE_QUIET"),
    ("parse_env", .string "list_by_comma"), ("deprecated", .string "use verbose"),
    ("enum", .array [.table [("value", .boolean true), ("description", .string "on")],
      .array [.boolean false, .string "off"]])]

theorem schema_of_authored_annotatedSetting :
    ∃ element other, Element.build "quiet" plainSetting = .ok element
      ∧ Element.build "quiet" annotatedSetting = .ok other
      ∧ Authored.ofTable annotatedSetting = Authored.ofTable plainSetting
      ∧ other.schema = element.schema
      ∧ element.schema.get? "default" = some (.bool true) := by
  obtain ⟨element, helement⟩ : ∃ element, Element.build "quiet" plainSetting = .ok element :=
    ⟨_, rfl⟩
  obtain ⟨other, hother⟩ : ∃ other, Element.build "quiet" annotatedSetting = .ok other := ⟨_, rfl⟩
  have hsame : Authored.ofTable annotatedSetting = Authored.ofTable plainSetting := rfl
  obtain ⟨hschema, hdefault, -⟩ := schema_of_authored helement
  exact ⟨element, other, helement, hother, hsame, hschema _ _ _ hother hsame, hdefault⟩

end Catalog.Setting
