import Catalog.Proofs.Json.Equality
import Catalog.Proofs.Setting.Leaves

/-!
The lists of allowed values. Main statement: a list has one value for each item, the same in the documentation
and in the JSON schema, and a list with an item that has none is refused; and the findings about defaults are
those about the settings whose default is not alike any value of their list.
-/

namespace Catalog.Setting

open Json (Alike)
open Toml (Value Table)

/-! ### Items -/

/-- The value that an item allows, as JSON: an item that is neither an array nor a table allows itself, an
array its first item, and a table its value, with or without a text that describes it. -/
inductive Allows : Value → Json → Prop
  | plain {item : Value} : items? item = none → item.table? = none → Allows item item.toJson
  | pair (first : Value) (rest : List Value) : Allows (.array (first :: rest)) first.toJson
  | described {entries : Table} {value : Value} : Keyed.get? entries "value" = some value →
      (∀ description, Keyed.get? entries "description" = some description → IsText description) →
      Allows (.table entries) value.toJson

/-- The items that allow nothing: an empty array, and a table without a value or with a description that is
no text. -/
inductive Lacks : Value → Prop
  | empty : Lacks (.array [])
  | value {entries : Table} : "value" ∉ Keyed.keys entries → Lacks (.table entries)
  | description {entries : Table} {description : Value} :
      Keyed.get? entries "description" = some description → ¬ IsText description → Lacks (.table entries)

theorem lacks_iff {item : Value} : Lacks item ↔ ¬ Carries item := by
  constructor
  · rintro (_ | hvalue | ⟨hdescription, htext⟩)
    · rintro ⟨hitems, -⟩
      cases hitems
    · rintro (⟨-, htable⟩ | _ | ⟨hmem, -⟩)
      · cases htable
      · exact hvalue hmem
    · rintro (⟨-, htable⟩ | _ | ⟨-, hall⟩)
      · cases htable
      · exact htext (hall _ hdescription)
  · intro h
    cases item with
    | array items =>
      cases items with
      | nil => exact .empty
      | cons first rest => exact absurd (.pair first rest) h
    | table entries =>
      by_cases hvalue : "value" ∈ Keyed.keys entries
      · by_cases hdescription : ∃ description, Keyed.get? entries "description" = some description
            ∧ ¬ IsText description
        · obtain ⟨description, hfound, htext⟩ := hdescription
          exact .description hfound htext
        · refine absurd (.described hvalue fun description hfound => ?_) h
          by_contra htext
          exact hdescription ⟨description, hfound, htext⟩
      · exact .value hvalue
    | string | integer | float | boolean | datetime => exact absurd (.plain rfl rfl) h

theorem allows_iff {item : Value} {json : Json} :
    (allowedValue? item).map Value.toJson = some json ↔ Allows item json := by
  rw [Option.map_eq_some_iff]
  constructor
  · rintro ⟨value, hvalue, rfl⟩
    cases item with
    | array items =>
      cases items with
      | nil => cases hvalue
      | cons first rest =>
        cases hvalue
        exact .pair _ rest
    | table entries =>
      obtain ⟨hfound, hdescription⟩ := allowedValue?_table.1 hvalue
      exact .described hfound hdescription
    | string | integer | float | boolean | datetime =>
      cases hvalue
      exact .plain rfl rfl
  · rintro (⟨hitems, htable⟩ | ⟨first, rest⟩ | ⟨hfound, hdescription⟩)
    · cases item with
      | array => cases hitems
      | table => cases htable
      | string | integer | float | boolean | datetime => exact ⟨_, rfl, rfl⟩
    · exact ⟨first, rfl, rfl⟩
    · exact ⟨_, allowedValue?_table.2 ⟨hfound, hdescription⟩, rfl⟩

/-- The values of a list are those that its items allow, one by one. -/
theorem allows_of_listedValues {items : List Value} {values : List Json}
    (h : values.map some = listedValues items) : List.Forall₂ Allows items values := by
  rw [Eq.comm, listedValues, ← List.forall₂_eq_eq_eq, List.forall₂_map_left_iff,
    List.forall₂_map_right_iff] at h
  exact h.imp fun _ _ hvalue => allows_iff.1 hvalue

theorem rightUnique_allows : Relator.RightUnique Allows :=
  fun _ _ _ h hother => Option.some.inj ((allows_iff.2 h).symm.trans (allows_iff.2 hother))

theorem mem_iff_allows {items : List Value} {values : List Json} (h : List.Forall₂ Allows items values)
    {json : Json} : json ∈ values ↔ ∃ item ∈ items, Allows item json := by
  induction h with
  | nil => simp
  | cons hfirst _ ih =>
    rw [List.mem_cons, List.exists_mem_cons_iff, ih]
    refine or_congr_left ⟨?_, fun hjson => rightUnique_allows hjson hfirst⟩
    rintro rfl
    exact hfirst

/-! ### Where the list shows -/

/-- The documentation shows the list of a setting, if it has one. -/
theorem get?_enum_toJson (element : Element) :
    element.toJson.get? "enum" = element.allowed.map .arr := by
  simp [Element.toJson, Json.get?_obj, Keyed.get?_append, Keyed.get?, get?_member?, get?_deprecatedMember]

/-- The JSON schema shows the list of a setting, if it has one. -/
theorem get?_enum_schema (element : Element) :
    element.schema.get? "enum" = element.allowed.map .arr := by
  simp [Element.schema, Json.get?_obj, Keyed.get?_append, Keyed.get?, get?_member?, get?_deprecatedMember]

/-! ### Lists -/

section list

variable {key : String} {table : Table} {items : List Value} {element : Element}

theorem exists_allowed_of_items (hitems : Keyed.get? table "enum" = some (.array items))
    (h : Element.build key table = .ok element) :
    ∃ values, element.allowed = some values ∧ List.Forall₂ Allows items values := by
  have hlisted := listed_of_build h
  rw [hitems, Option.bind_some, items?, Option.map_some] at hlisted
  obtain ⟨values, hvalues, hall⟩ := Option.map_eq_some_iff.1 hlisted
  exact ⟨values, hvalues, allows_of_listedValues hall⟩

theorem exists_items_of_allowed {values : List Json} (h : Element.build key table = .ok element)
    (hvalues : element.allowed = some values) :
    ∃ items, Keyed.get? table "enum" = some (.array items) ∧ List.Forall₂ Allows items values := by
  have hlisted := listed_of_build h
  rw [hvalues, Option.map_some] at hlisted
  obtain ⟨items, hitems, hall⟩ := Option.map_eq_some_iff.1 hlisted.symm
  obtain ⟨list, hlist, hitems⟩ := Option.bind_eq_some_iff.1 hitems
  exact ⟨items, items?_eq_some_iff.1 hitems ▸ hlist, allows_of_listedValues hall.symm⟩

theorem holds_items_iff (hitems : Keyed.get? table "enum" = some (.array items)) :
    Rule.items.Holds table ↔ ∀ item ∈ items, ¬ Lacks item := by
  simp only [lacks_iff, not_not]
  constructor
  · exact fun h => h items hitems
  · intro h others hothers
    rw [hitems] at hothers
    cases hothers
    exact h

/-- Where no other rule is broken, a list with an item that allows nothing is what is refused. -/
theorem build_of_broken_items (key : String)
    (hothers : ∀ rule : Rule, rule ≠ .items → rule.Checked table → rule.Holds table)
    (hbroken : ¬ Rule.items.Holds table) :
    Element.build key table = .error (.invalid key "enum item has no value") := by
  cases hbuild : Element.build key table with
  | ok element => exact absurd (exists_build_iff.1 ⟨element, hbuild⟩ .items trivial) hbroken
  | error fault =>
    obtain ⟨_, rule, _, -, -, hchecked, hrule, hblames⟩ := exists_rule_of_build_eq_error hbuild
    have hitems : rule = .items := by
      by_contra hne
      exact hrule (hothers rule hne hchecked)
    subst hitems
    cases hblames
    rfl

theorem exists_build_of_items
    (hothers : ∀ rule : Rule, rule ≠ .items → rule.Checked table → rule.Holds table)
    (h : Rule.items.Holds table) : ∃ element, Element.build key table = .ok element := by
  refine exists_build_iff.2 fun rule hchecked => ?_
  by_cases hrule : rule = .items
  · exact hrule ▸ h
  · exact hothers rule hrule hchecked

end list

/-! ### Findings about defaults -/

/-- A default is authored beside a list, and none of the values of the list is alike. -/
def Strays (table : Table) : Prop :=
  ∃ default items, Keyed.get? table "default" = some default
    ∧ Keyed.get? table "enum" = some (.array items)
    ∧ ∀ item ∈ items, ∀ json, Allows item json → ¬ Alike json default.toJson

/-- The finding about a setting whose default is not in its list. -/
def Reports (leaf : String × Table) (finding : Warning) : Prop :=
  ∃ default, Keyed.get? leaf.2 "default" = some default
    ∧ finding = warning leaf.1 s!"default {default.toJson.compact} is not one of the enum values"

/-- A finding is about a default, by its message. -/
def aboutDefault (finding : Warning) : Bool :=
  "default ".toList.isPrefixOf finding.message.toList

theorem strays_iff {table : Table} : Strays table
    ↔ ∃ default ∈ Keyed.get? table "default", ∃ items ∈ (Keyed.get? table "enum").bind items?,
      ∀ item ∈ items, ∀ value ∈ allowedValue? item, ¬ Alike value.toJson default.toJson := by
  constructor
  · rintro ⟨default, items, hdefault, hitems, hapart⟩
    refine ⟨default, hdefault, items, by rw [hitems]; rfl, fun item hitem value hvalue => ?_⟩
    exact hapart item hitem _ (allows_iff.1 (Option.map_eq_some_iff.2 ⟨value, hvalue, rfl⟩))
  · rintro ⟨default, hdefault, items, hitems, hapart⟩
    obtain ⟨list, hlist, hitems⟩ := Option.bind_eq_some_iff.1 hitems
    refine ⟨default, items, hdefault, items?_eq_some_iff.1 hitems ▸ hlist, ?_⟩
    intro item hitem json hallows
    obtain ⟨value, hvalue, rfl⟩ := Option.map_eq_some_iff.1 (allows_iff.2 hallows)
    exact hapart item hitem value hvalue

instance (table : Table) : Decidable (Strays table) :=
  decidable_of_iff' _ strays_iff

section findings

variable {leaf : String × Table} {element : Element}

/-- A setting whose default strays has one finding about it. -/
theorem reports_of_strays (h : Built leaf element) (hstrays : Strays leaf.2) :
    ∃ finding, defaultFinding element = [finding] ∧ Reports leaf finding := by
  obtain ⟨default, items, hdefault, hitems, hapart⟩ := hstrays
  obtain ⟨values, hvalues, hall⟩ := exists_allowed_of_items hitems h
  have hnone : values.any (·.same default.toJson) = false := by
    rw [List.any_eq_false]
    intro value hvalue hsame
    obtain ⟨item, hitem, hallows⟩ := (mem_iff_allows hall).1 hvalue
    exact hapart item hitem value hallows (Json.same_iff.1 hsame)
  have hfinding : defaultFinding element
      = [warning element.key s!"default {default.toJson.compact} is not one of the enum values"] := by
    simp only [defaultFinding, literal_of_build h, hdefault, hvalues, Option.map_some, hnone,
      Bool.false_eq_true, if_false]
  exact ⟨_, hfinding, default, hdefault, by rw [key_of_build h]⟩

theorem defaultFinding_of_not_strays (h : Built leaf element) (hstrays : ¬ Strays leaf.2) :
    defaultFinding element = [] := by
  rw [defaultFinding, literal_of_build h]
  cases hdefault : Keyed.get? leaf.2 "default" with
  | none => rfl
  | some default =>
    cases hvalues : element.allowed with
    | none => rfl
    | some values =>
      obtain ⟨items, hitems, hall⟩ := exists_items_of_allowed h hvalues
      have hsome : values.any (·.same default.toJson) = true := by
        by_contra hnone
        refine hstrays ⟨default, items, hdefault, hitems, fun item hitem json hallows halike => hnone ?_⟩
        have hmem : json ∈ values := (mem_iff_allows hall).2 ⟨item, hitem, hallows⟩
        exact List.any_eq_true.2 ⟨json, hmem, Json.same_iff.2 halike⟩
      simp only [Option.map_some, hsome, if_true]

/-- The findings about defaults come one by one from the settings whose default strays. -/
theorem reports_of_built {leaves : List (String × Table)} {elements : List Element}
    (h : List.Forall₂ Built leaves elements) :
    List.Forall₂ Reports (leaves.filter fun leaf => Strays leaf.2) (elements.flatMap defaultFinding) := by
  induction h with
  | nil => exact .nil
  | @cons leaf element rest elements hfirst hrest ih =>
    rw [List.flatMap_cons]
    by_cases hstrays : Strays leaf.2
    · obtain ⟨finding, hfinding, hreports⟩ := reports_of_strays hfirst hstrays
      rw [List.filter_cons, if_pos (decide_eq_true hstrays), hfinding]
      exact .cons hreports ih
    · rw [List.filter_cons, if_neg (by simpa using hstrays), defaultFinding_of_not_strays hfirst hstrays]
      exact ih

theorem filter_defaultFinding (element : Element) :
    (defaultFinding element).filter aboutDefault = defaultFinding element := by
  rw [List.filter_eq_self]
  intro finding hfinding
  unfold defaultFinding at hfinding
  split at hfinding
  · split at hfinding
    · cases hfinding
    · rw [List.mem_singleton.1 hfinding]
      simp [aboutDefault, warning, toString]
  · cases hfinding

theorem filter_envFinding (element : Element) : (envFinding element).filter aboutDefault = [] := by
  rw [List.filter_eq_nil_iff]
  intro finding hfinding
  unfold envFinding at hfinding
  split at hfinding
  · split at hfinding
    · cases hfinding
    · rw [List.mem_singleton.1 hfinding]
      simp [aboutDefault, warning, toString]
  · cases hfinding

theorem filter_findings (entries : List Entry) : (findings entries).filter aboutDefault
    = (entries.flatMap Entry.elements).flatMap defaultFinding := by
  rw [findings, List.filter_flatMap]
  refine congrArg (List.flatMap · _) (funext fun element => ?_)
  rw [List.filter_append, filter_defaultFinding, filter_envFinding, List.append_nil]

end findings

/-- A setting that is right but for its list of allowed values is refused, and so is any document with it, if
an item of the list allows nothing. Otherwise it has one value for each item, in order, and the documentation
and the JSON schema show these values. Of an accepted document, the findings about defaults are those about
the settings with a default that is alike none of the values of their list, one by one and in the order of
the entries and their members. -/
theorem allowed_by_item (key : String) {table : Table} {items : List Value}
    (hitems : Keyed.get? table "enum" = some (.array items))
    (hothers : ∀ rule : Rule, rule ≠ .items → rule.Checked table → rule.Holds table) :
    ((∃ item ∈ items, Lacks item) →
        Element.build key table = .error (.invalid key "enum item has no value")
          ∧ ∀ document, (key, table) ∈ leaves document → ∃ fault, build document = .error fault)
      ∧ ((∀ item ∈ items, ¬ Lacks item) → ∃ element values, Element.build key table = .ok element
          ∧ List.Forall₂ Allows items values
          ∧ element.allowed = some values
          ∧ element.toJson.get? "enum" = some (.arr values)
          ∧ element.schema.get? "enum" = some (.arr values))
      ∧ ∀ document entries, build document = .ok entries →
          List.Forall₂ Built (leaves document) (entries.flatMap Entry.elements)
            ∧ List.Forall₂ Reports ((leaves document).filter fun leaf => Strays leaf.2)
              ((findings entries).filter aboutDefault) := by
  refine ⟨?_, ?_, ?_⟩
  · rintro ⟨item, hitem, hlacks⟩
    have hbroken : ¬ Rule.items.Holds table :=
      fun h => (holds_items_iff hitems).1 h item hitem hlacks
    have hrefused := build_of_broken_items key hothers hbroken
    refine ⟨hrefused, fun document hleaf => refused_of_leaf hleaf ?_⟩
    rintro ⟨element, helement⟩
    rw [Built, hrefused] at helement
    cases helement
  · intro hall
    obtain ⟨element, hbuild⟩ := exists_build_of_items hothers ((holds_items_iff hitems).2 hall)
    obtain ⟨values, hvalues, hallows⟩ := exists_allowed_of_items hitems hbuild
    refine ⟨element, values, hbuild, hallows, hvalues, ?_, ?_⟩
    · rw [get?_enum_toJson, hvalues, Option.map_some]
    · rw [get?_enum_schema, hvalues, Option.map_some]
  · intro document entries hbuild
    have hbuilt := built_leaves hbuild
    exact ⟨hbuilt, filter_findings entries ▸ reports_of_built hbuilt⟩

/-- An item of each form. -/
def modeItems : List Value :=
  [.string "auto", .datetime (.date ⟨1979, 5, 27⟩), .array [.integer 1, .string "once"],
    .table [("description", .string "on"), ("value", .boolean true)]]

/-- A setting with a default that is the text of a date-time in its list. -/
def modeSetting : Table :=
  [("type", .string "String"), ("description", .string "Mode"), ("default", .string "1979-05-27"),
    ("enum", .array modeItems)]

/-- The same setting with a default that only describes a value in the list. -/
def strayingSetting : Table :=
  Keyed.put modeSetting "default" (.string "once")

/-- A group with both settings. -/
def modeDocument : Table :=
  [("node", .table [("mode", .table modeSetting), ("flavor", .table strayingSetting)])]

theorem allowed_by_item_modeSetting :
    Keyed.get? modeSetting "enum" = some (.array modeItems)
      ∧ (∀ rule : Rule, rule ≠ .items → rule.Checked modeSetting → rule.Holds modeSetting)
      ∧ (∃ element, Element.build "mode" modeSetting = .ok element
          ∧ element.toJson.get? "enum"
            = some (.arr [.str "auto", .str "1979-05-27", .int 1, .bool true]))
      ∧ ∃ entries, build modeDocument = .ok entries
          ∧ List.Forall₂ Reports [("node.flavor", strayingSetting)]
            ((findings entries).filter aboutDefault) := by
  have hitems : Keyed.get? modeSetting "enum" = some (.array modeItems) := rfl
  have hrules := exists_build_iff.1 (⟨_, rfl⟩ : ∃ element, Element.build "mode" modeSetting = .ok element)
  have hothers : ∀ rule : Rule, rule ≠ .items → rule.Checked modeSetting → rule.Holds modeSetting :=
    fun rule _ => hrules rule
  have hall : ∀ item ∈ modeItems, ¬ Lacks item := (holds_items_iff hitems).1 (hrules .items trivial)
  have hexpected : List.Forall₂ Allows modeItems [.str "auto", .str "1979-05-27", .int 1, .bool true] := by
    have hvalue : Keyed.get? ([("description", .string "on"), ("value", .boolean true)] : Table) "value"
        = some (.boolean true) := rfl
    refine .cons (.plain rfl rfl) (.cons (.plain rfl rfl) (.cons (.pair _ _) (.cons ?_ .nil)))
    refine .described hvalue fun description hdescription => ?_
    cases hdescription
    exact .string "on"
  have hleaves : leaves modeDocument = [("node.mode", modeSetting), ("node.flavor", strayingSetting)] := by
    rw [leaves, Collation.sortBy, modeDocument, List.mergeSort_singleton]
    rfl
  have hstrays : (leaves modeDocument).filter (fun leaf => Strays leaf.2)
      = [("node.flavor", strayingSetting)] := by
    rw [hleaves]
    rfl
  obtain ⟨entries, hentries⟩ : ∃ entries, build modeDocument = .ok entries := ⟨_, rfl⟩
  obtain ⟨-, haccepted, hdocuments⟩ := allowed_by_item "mode" hitems hothers
  obtain ⟨element, values, hbuild, hallows, -, htoJson, -⟩ := haccepted hall
  obtain rfl := List.right_unique_forall₂' rightUnique_allows hallows hexpected
  obtain ⟨-, hreports⟩ := hdocuments _ _ hentries
  rw [hstrays] at hreports
  exact ⟨hitems, hothers, ⟨element, hbuild, htoJson⟩, entries, hentries, hreports⟩

end Catalog.Setting
