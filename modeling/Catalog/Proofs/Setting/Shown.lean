import Catalog.Proofs.Setting.Allowed
import Catalog.Proofs.Setting.Default
import Catalog.Proofs.Toml.Image

/-!
Authored values as they are shown. Main statement: the default and the allowed values of a setting, in the
documentation and in the JSON schema, are images of the authored ones, and images are equal only if the values
are, whatever order their keys are put down in.
-/

namespace Catalog.Setting

open Toml (Value Table)

/-- The value that an item of a list holds: an item that is neither an array nor a table holds itself, an array
its first item, and a table its value, with or without a text that describes it. -/
inductive Offers : Value → Value → Prop
  | plain {item : Value} : items? item = none → item.table? = none → Offers item item
  | pair (first : Value) (rest : List Value) : Offers (.array (first :: rest)) first
  | described {entries : Table} {value : Value} : Keyed.get? entries "value" = some value →
      (∀ description, Keyed.get? entries "description" = some description → IsText description) →
      Offers (.table entries) value

/-- A JSON value shows a value: it is an image of it, unless there is a date-time in the value, or a float that
is not finite. -/
def Shows (value : Value) (image : Json) : Prop :=
  value.Plain → value.HasImage image

/-- A JSON array shows a list of allowed values: it has the value of each item, in order. -/
inductive ShowsList : Value → Json → Prop
  | array {items : List Value} {images : List Json} :
      List.Forall₂ (fun item image => ∃ value, Offers item value ∧ Shows value image) items images →
      ShowsList (.array items) (.arr images)

/-- The default and the allowed values of a setting are shown as its table has them. The JSON schema has a default
only if one was authored; the documentation shows the text authored for the default, if there is one. -/
structure ShowsAuthored (table : Table) (element : Element) : Prop where
  default_schema : Option.Rel Shows (Keyed.get? table "default") (element.schema.get? "default")
  default_docs : "docs_default" ∉ Keyed.keys table → ∀ value, Keyed.get? table "default" = some value →
    ∃ image, element.toJson.get? "default" = some image ∧ Shows value image
  text_docs : ∀ text, textAt? table "docs_default" = some text →
    element.toJson.get? "default" = some (.str text)
  enum_schema : Option.Rel ShowsList (Keyed.get? table "enum") (element.schema.get? "enum")
  enum_docs : Option.Rel ShowsList (Keyed.get? table "enum") (element.toJson.get? "enum")

theorem shows_toJson (value : Value) : Shows value value.toJson :=
  Value.hasImage_toJson

theorem exists_offers_of_allows {item : Value} {image : Json} (h : Allows item image) :
    ∃ value, Offers item value ∧ Shows value image := by
  cases h with
  | plain hitems htable => exact ⟨item, .plain hitems htable, shows_toJson item⟩
  | pair first rest => exact ⟨first, .pair first rest, shows_toJson first⟩
  | described hvalue hdescription => exact ⟨_, .described hvalue hdescription, shows_toJson _⟩

theorem exists_of_rel_some {α β : Type} {R : α → β → Prop} {a : α} {shown : Option β}
    (h : Option.Rel R (some a) shown) : ∃ b, shown = some b ∧ R a b := by
  cases h with
  | some hrelated => exact ⟨_, rfl, hrelated⟩

/-- A list of allowed values is one, if it is there and what is there fits. -/
theorem exists_items_of_fits {list : Value} (h : Fits "enum" list) : ∃ items, list = .array items := by
  rw [← settingComplaint?_eq_none_iff] at h
  exact complaint?_list.1 h

section build

variable {key : String} {table : Table} {element : Element}

theorem rel_shows_of_build (h : Element.build key table = .ok element) :
    Option.Rel Shows (Keyed.get? table "default") (element.schema.get? "default") := by
  rw [get?_default_schema, literal_of_build h]
  cases Keyed.get? table "default" with
  | none => exact .none
  | some value => exact .some (shows_toJson value)

theorem rel_showsList_of_build (h : Element.build key table = .ok element) :
    Option.Rel ShowsList (Keyed.get? table "enum") (element.allowed.map .arr) := by
  cases hlist : Keyed.get? table "enum" with
  | none =>
    cases hvalues : element.allowed with
    | none => exact .none
    | some values =>
      obtain ⟨items, hitems, -⟩ := exists_items_of_allowed h hvalues
      rw [hlist] at hitems
      cases hitems
  | some list =>
    have hfields : Rule.fields.Holds table := exists_build_iff.1 ⟨element, h⟩ .fields trivial
    obtain ⟨items, rfl⟩ := exists_items_of_fits (hfields _ (Keyed.mem_of_get? hlist))
    obtain ⟨values, hvalues, hallows⟩ := exists_allowed_of_items hlist h
    rw [hvalues, Option.map_some]
    exact .some (.array (hallows.imp fun _ _ => exists_offers_of_allows))

theorem showsAuthored_of_build (h : Element.build key table = .ok element) : ShowsAuthored table element := by
  obtain ⟨tag, unset, -, -, -, hshown⟩ := shownDefault_of_build h
  obtain ⟨hdocs, -⟩ := get?_default_toJson element
  have hdefault := (Prod.mk.inj hshown).1
  constructor
  · exact rel_shows_of_build h
  · intro hkey value hvalue
    rw [textAt?, Keyed.get?_eq_none_iff.2 hkey, hvalue] at hdefault
    exact ⟨value.toJson, by rw [hdocs, hdefault]; rfl, shows_toJson value⟩
  · intro text htext
    rw [htext] at hdefault
    rw [hdocs, hdefault]
    rfl
  · rw [get?_enum_schema]
    exact rel_showsList_of_build h
  · rw [get?_enum_toJson]
    exact rel_showsList_of_build h

end build

/-- Every value without a date-time, and with finite floats only, becomes an image of itself. Two such values
have equal images if and only if they are equal but for the order of keys, whatever order the keys of the
images have. A table that keeps the rules for settings gives one, whatever its default, and the default and the
allowed values that are shown of it are images of the authored ones. -/
theorem shown_as_authored :
    (∀ value : Value, value.Plain → value.HasImage value.toJson)
      ∧ (∀ value other : Value, value.Plain → other.Plain → ∀ image otherImage, value.HasImage image →
          other.HasImage otherImage → (image.same otherImage = true ↔ value.Alike other))
      ∧ ∀ key table, (∀ rule : Rule, rule.Checked table → rule.Holds table) →
          ∃ element, Element.build key table = .ok element ∧ ShowsAuthored table element := by
  refine ⟨fun _ => Value.hasImage_toJson, fun value other hplain _ image otherImage himage hother => ?_,
    fun key table hrules => ?_⟩
  · rw [Json.same_iff]
    exact Value.reflects_of_plain hplain himage hother
  · obtain ⟨element, hbuild⟩ := exists_build_iff.2 hrules
    exact ⟨element, hbuild, showsAuthored_of_build hbuild⟩

/-- A whole number and the float that is numerically equal to it. -/
def limits : Value :=
  .table [("low", .integer 1), ("high", .float 1)]

/-- The same entries the other way round. -/
def turnedLimits : Value :=
  .table [("high", .float 1), ("low", .integer 1)]

/-- The same numbers as floats. -/
def floatLimits : Value :=
  .table [("low", .float 1), ("high", .float 1)]

/-- A setting with a nested default, which it allows as well, described and the other way round. -/
def limitsSetting : Table :=
  [("type", .string "IndexMap<String, String>"), ("description", .string "Limits"), ("default", limits),
    ("enum", .array [.array [turnedLimits, .string "default"], .integer 1])]

theorem shown_as_authored_limitsSetting :
    limits.Plain ∧ turnedLimits.Plain ∧ floatLimits.Plain
      ∧ limits.HasImage limits.toJson
      ∧ limits.toJson.same turnedLimits.toJson = true
      ∧ limits.toJson.same floatLimits.toJson = false
      ∧ (∀ rule : Rule, rule.Checked limitsSetting → rule.Holds limitsSetting)
      ∧ ∃ element, Element.build "limits" limitsSetting = .ok element
          ∧ (∃ image, element.schema.get? "default" = some image ∧ limits.HasImage image)
          ∧ ∃ first second, element.toJson.get? "enum" = some (.arr [first, second])
            ∧ turnedLimits.HasImage first ∧ (Value.integer 1).HasImage second := by
  have hwhole : (Value.integer 1).Plain := .integer 1
  have hfloat : (Value.float 1).Plain := .float rfl
  have hlimits : limits.Plain := .table (by decide) (by simp [hwhole, hfloat])
  have hturned : turnedLimits.Plain := .table (by decide) (by simp [hwhole, hfloat])
  have hfloats : floatLimits.Plain := .table (by decide) (by simp [hfloat])
  have halike : limits.Alike turnedLimits := by
    refine Value.alike_table_iff.2 ⟨rfl, List.forall_mem_cons.2 ⟨?_, List.forall_mem_singleton.2 ?_⟩⟩
    · exact ⟨.integer 1, rfl, .integer 1⟩
    · exact ⟨.float 1, rfl, .float rfl⟩
  have hapart : ¬ limits.Alike floatLimits := by
    intro h
    obtain ⟨-, hall⟩ := Value.alike_table_iff.1 h
    obtain ⟨other, hother, hlow⟩ := hall ("low", .integer 1) List.mem_cons_self
    cases hother
    cases hlow
  have hrules := exists_build_iff.1 (⟨_, rfl⟩ : ∃ element, Element.build "limits" limitsSetting = .ok element)
  obtain ⟨himage, hequal, hshown⟩ := shown_as_authored
  have hsame := hequal _ _ hlimits hturned _ _ (himage _ hlimits) (himage _ hturned)
  have hother := hequal _ _ hlimits hfloats _ _ (himage _ hlimits) (himage _ hfloats)
  obtain ⟨element, hbuild, hauthored⟩ := hshown "limits" limitsSetting hrules
  obtain ⟨image, hdefault, hshows⟩ := exists_of_rel_some hauthored.default_schema
  obtain ⟨list, hlist, ⟨hitems⟩⟩ := exists_of_rel_some hauthored.enum_docs
  obtain _ | ⟨⟨turned, hpair, hfirst⟩, _ | ⟨⟨whole, hplain, hsecond⟩, ⟨⟩⟩⟩ := hitems
  obtain rfl : turned = turnedLimits := by
    cases hpair with
    | plain hnone => cases hnone
    | pair => rfl
  obtain rfl : whole = .integer 1 := by
    cases hplain
    rfl
  refine ⟨hlimits, hturned, hfloats, himage _ hlimits, hsame.2 halike, ?_, hrules, element, hbuild, ?_, ?_⟩
  · exact Bool.eq_false_iff.2 (mt hother.1 hapart)
  · exact ⟨image, hdefault, hshows hlimits⟩
  · exact ⟨_, _, hlist, hfirst hturned, hsecond hwhole⟩

end Catalog.Setting
