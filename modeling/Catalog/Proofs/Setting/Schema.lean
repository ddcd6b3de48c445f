import Catalog.Proofs.FileTree
import Catalog.Proofs.Json.Soundness
import Catalog.Proofs.Keyed
import Catalog.Proofs.Setting.Entry
import Catalog.Proofs.Toml.Printable
import Catalog.Setting.Schema

/-!
Bringing the schemas up to date a second time. The properties of the settings replace those of an
earlier run, and copied definitions replace their copies, so nothing changes that was read back as it was
written.
-/

namespace Catalog

namespace Setting

open Json (HasText Lasting)
open Toml (Value Table)

/-! ### Properties that have a text -/

/-- The JSON of what was authored for a setting has a text. -/
def Element.Printable (element : Element) : Prop :=
  (∀ literal ∈ element.literal, literal.Every HasText fun _ => True)
    ∧ ∀ values ∈ element.allowed, ∀ value ∈ values, value.Every HasText fun _ => True

theorem printable_of_allowedValue? {item value : Value} (hitem : item.Printable)
    (h : allowedValue? item = some value) : value.Printable := by
  have hentry : ∀ {entries : Table}, (Value.table entries).Printable →
      Keyed.get? entries "value" = some value → value.Printable := fun hentries hget =>
    Value.printable_table.1 hentries _ (Keyed.mem_of_get? hget)
  unfold allowedValue? at h
  split at h
  · split at h
    · exact hentry hitem h
    · split at h
      · exact hentry hitem h
      · cases h
  · exact Value.printable_array.1 hitem _ (List.mem_of_mem_head? h)
  · cases h
    exact hitem

theorem printable_of_allowedValues {key : String} {items : List Value} {values : List Json}
    (hitems : ∀ item ∈ items, item.Printable) (h : allowedValues key items = .ok values) :
    ∀ value ∈ values, value.Every HasText fun _ => True := by
  intro value hvalue
  obtain ⟨item, hitem, hallowed⟩ := Result.exists_of_mem_mapM h hvalue
  split at hallowed
  · rename_i found hfound
    cases hallowed
    exact printable_of_allowedValue? (hitems item hitem) hfound
  · cases hallowed

theorem printable_of_ofSource {key : String} {table : Table} {source : Source} {element : Element}
    (htable : ∀ entry ∈ table, entry.2.Printable) (hsource : Source.ofTable key table = .ok source)
    (h : Element.ofSource key source = .ok element) : element.Printable := by
  have hfield : ∀ {name : String} {value : Value}, Keyed.get? table name = some value →
      value.Printable := fun hget => htable _ (Keyed.mem_of_get? hget)
  unfold Source.ofTable at hsource
  split at hsource
  · cases hsource
  · cases hsource
    simp only [Element.ofSource, Result.bind_eq_ok, Result.pure_eq_ok] at h
    obtain ⟨_, -, _, -, allowed, hallowed, _, -, rfl⟩ := h
    refine ⟨?_, ?_⟩
    · intro literal hliteral
      obtain ⟨value, hvalue, rfl⟩ := Option.map_eq_some_iff.1 hliteral
      exact hfield hvalue
    · cases henum : (Keyed.get? table "enum").bind items? with
      | none =>
        rw [henum] at hallowed
        cases hallowed
        rintro _ ⟨⟩
      | some items =>
        rw [henum] at hallowed
        obtain ⟨values, hvalues, rfl⟩ := Result.map_eq_ok.1 hallowed
        obtain ⟨value, hvalue, hitems⟩ := Option.bind_eq_some_iff.1 henum
        have harray : value = .array items := items?_eq_some_iff.1 hitems
        rintro _ ⟨⟩
        exact printable_of_allowedValues (Value.printable_array.1 (harray ▸ hfield hvalue)) hvalues

theorem printable_of_buildElement {key : String} {table : Table} {element : Element}
    (htable : (Value.table table).Printable) (h : Element.build key table = .ok element) :
    element.Printable := by
  obtain ⟨source, hsource, h⟩ := Result.bind_eq_ok.1 h
  exact printable_of_ofSource
    (Value.printable_undatedEntries (Value.printable_table.1 htable)) hsource h

theorem printable_of_buildGroup {key : String} {table : Table} {group : Group}
    (htable : (Value.table table).Printable) (h : Group.build key table = .ok group) :
    ∀ element ∈ group.settings, element.Printable := by
  simp only [Group.build, Result.bind_eq_ok, Result.pure_eq_ok] at h
  obtain ⟨source, hsource, settings, hsettings, rfl⟩ := h
  intro element helement
  obtain ⟨⟨name, value⟩, hmember, hbuild⟩ := Result.exists_of_mem_mapM hsettings helement
  obtain ⟨inner, hinner, hbuild⟩ := Result.bind_eq_ok.1 hbuild
  refine printable_of_buildElement ?_ hbuild
  have hundated := Value.printable_undatedEntries (Value.printable_table.1 htable)
  unfold GroupSource.ofTable at hsource
  split at hsource
  · cases hsource
  · cases hsource
    rw [← eq_of_expectTable hinner]
    exact hundated _ (List.mem_filter.1 hmember).1

/-- The settings of an entry have JSON with a text. -/
theorem printable_of_buildEntry {key : String} {value : Value} {entry : Entry}
    (hvalue : value.Printable) (h : Entry.build key value = .ok entry) :
    ∀ element ∈ entry.elements, element.Printable := by
  obtain ⟨table, htable, h⟩ := Result.bind_eq_ok.1 h
  have hprintable := eq_of_expectTable htable ▸ hvalue
  split at h
  · obtain ⟨element, helement, hentry⟩ := Result.bind_eq_ok.1 h
    cases hentry
    exact List.forall_mem_singleton.2 (printable_of_buildElement hprintable helement)
  · obtain ⟨group, hgroup, hentry⟩ := Result.bind_eq_ok.1 h
    cases hentry
    exact printable_of_buildGroup hprintable hgroup

theorem forall_mem_member? {p : Json → Prop} {name : String} {value : Option Json} :
    (∀ member ∈ member? name value, p member.2) ↔ ∀ json ∈ value, p json := by
  cases value <;> simp [member?]

theorem hasText_deprecatedMember (deprecated : Bool) : ∀ member ∈ deprecatedMember deprecated,
    member.2.Every HasText fun _ => True := by
  cases deprecated
  · nofun
  · exact List.forall_mem_singleton.2 trivial

theorem hasText_typeReference (name : String) : (typeReference name).Every HasText fun _ => True :=
  ⟨trivial, trivial, trivial⟩

theorem hasText_schemaType (shape : Shape) : shape.schemaType.Every HasText fun _ => True := by
  cases shape <;> simp [Shape.schemaType, Json.strings, Json.Every, Json.EveryItem, HasText]

theorem hasText_schema {element : Element} (h : element.Printable) :
    element.schema.Every HasText fun _ => True := by
  obtain ⟨hliteral, hallowed⟩ := h
  refine Json.every_obj.2 ⟨trivial, ?_⟩
  simp only [List.forall_mem_append, forall_mem_member?, List.forall_mem_singleton]
  refine ⟨⟨⟨⟨⟨⟨hasText_schemaType _, hliteral⟩, trivial⟩, hasText_deprecatedMember _⟩, ?_⟩, ?_⟩, ?_⟩
  · intro json hjson
    obtain ⟨values, hvalues, rfl⟩ := Option.map_eq_some_iff.1 hjson
    exact Json.every_arr.2 (hallowed values hvalues)
  · intro json hjson
    obtain ⟨name, -, rfl⟩ := Option.map_eq_some_iff.1 hjson
    exact hasText_typeReference name
  · intro json hjson
    obtain ⟨name, -, rfl⟩ := Option.map_eq_some_iff.1 hjson
    exact hasText_typeReference name

theorem hasText_schemaOfGroup {group : Group} (h : ∀ element ∈ group.settings, element.Printable) :
    group.schema.Every HasText fun _ => True := by
  refine Json.every_obj.2 ⟨trivial, ?_⟩
  simp only [List.forall_mem_append, forall_mem_member?, List.forall_mem_singleton,
    List.forall_mem_cons]
  refine ⟨⟨⟨⟨trivial, trivial⟩, ?_⟩, hasText_deprecatedMember _⟩, ?_⟩
  · intro json hjson
    obtain ⟨text, -, rfl⟩ := Option.map_eq_some_iff.1 hjson
    exact trivial
  · refine Json.every_obj.2 ⟨trivial, fun member hmember => ?_⟩
    obtain ⟨element, helement, rfl⟩ := List.mem_map.1 (Keyed.mem_ofPairs hmember)
    exact hasText_schema (h element helement)

theorem hasText_schemaOfEntry {entry : Entry} (h : ∀ element ∈ entry.elements, element.Printable) :
    entry.schema.Every HasText fun _ => True := by
  cases entry with
  | leaf element => exact hasText_schema (h element List.mem_cons_self)
  | group g => exact hasText_schemaOfGroup h

/-- The properties of the settings of a document that was read have a text. -/
theorem hasText_properties {text : String} {document : Table} {entries : List Entry}
    (hparse : Toml.parse text = .ok document) (h : build document = .ok entries) :
    ∀ property ∈ properties entries, property.2.Every HasText fun _ => True := by
  intro property hproperty
  obtain ⟨entry, hentry, rfl⟩ := List.mem_map.1 (Keyed.mem_ofPairs hproperty)
  obtain ⟨authored, hauthored, rfl⟩ := exists_of_build h
  have hmem := (Collation.sortBy_perm Entry.key authored).mem_iff.1 hentry
  obtain ⟨item, hitem, hbuild⟩ := Result.exists_of_mem_mapM hauthored hmem
  exact hasText_schemaOfEntry
    (printable_of_buildEntry (Toml.printable_of_parse hparse item hitem) hbuild)

/-! ### The main schema -/

theorem exists_of_get? {json value : Json} {key : String} (h : json.get? key = some value) :
    ∃ members, json = .obj members ∧ Keyed.get? members key = some value := by
  cases json <;> first | exact ⟨_, rfl, h⟩ | cases h

/-- The properties go to their place, if the way to it is there. -/
theorem mergeProperties_eq_ok {schema merged : Json} {properties : List (String × Json)} :
    mergeProperties schema properties = .ok merged ↔ ∃ members definitions settings,
      schema = .obj members ∧ Keyed.get? members "$defs" = some (.obj definitions)
      ∧ Keyed.get? definitions "settings" = some (.obj settings)
      ∧ merged = .obj (Keyed.put members "$defs" (.obj (Keyed.put definitions "settings"
          (.obj (Keyed.put settings "properties" (.obj properties)))))) := by
  constructor
  · intro h
    unfold mergeProperties at h
    split at h
    · rename_i defs hdefs
      obtain ⟨members, rfl, hmembers⟩ := exists_of_get? hdefs
      split at h
      · rename_i settings hsettings
        obtain ⟨definitions, rfl, hdefinitions⟩ := exists_of_get? hsettings
        cases h
        exact ⟨members, definitions, settings, rfl, hmembers, hdefinitions, rfl⟩
      · cases h
    · cases h
  · rintro ⟨members, definitions, settings, rfl, hmembers, hdefinitions, rfl⟩
    simp only [mergeProperties, Json.get?_obj, hmembers, hdefinitions, Json.set]

/-- The main schema is the same when it was read back and the properties go to their place again. -/
theorem mergeProperties_reread {floats : Float → Float} {schema merged : Json}
    {properties : List (String × Json)} (h : mergeProperties schema properties = .ok merged)
    (hschema : schema.Every (Lasting floats) List.Nodup) :
    mergeProperties (merged.reread floats) properties = .ok merged := by
  obtain ⟨members, definitions, settings, rfl, hmembers, hdefinitions, rfl⟩ :=
    mergeProperties_eq_ok.1 h
  obtain ⟨hkeys, hvalues⟩ := Json.every_obj.1 hschema
  obtain ⟨hdefinitionKeys, hdefinitionValues⟩ :=
    Json.every_obj.1 (hvalues _ (Keyed.mem_of_get? hmembers))
  obtain ⟨hsettingKeys, hsettingValues⟩ :=
    Json.every_obj.1 (hdefinitionValues _ (Keyed.mem_of_get? hdefinitions))
  have hplain : ∀ {members : List (String × Json)},
      (∀ member ∈ members, member.2.Every (Lasting floats) List.Nodup) →
      Json.rereadMembers floats members = members :=
    fun h => Json.rereadMembers_of_lasting ((Json.everyMember_iff _).2 h)
  rw [Json.reread_obj (Keyed.nodup_keys_put hkeys _ _), Json.rereadMembers_put, hplain hvalues,
    Json.reread_obj (Keyed.nodup_keys_put hdefinitionKeys _ _), Json.rereadMembers_put,
    hplain hdefinitionValues, Json.reread_obj (Keyed.nodup_keys_put hsettingKeys _ _),
    Json.rereadMembers_put, hplain hsettingValues]
  refine mergeProperties_eq_ok.2 ⟨_, _, _, rfl, Keyed.get?_put_self _ _ _,
    Keyed.get?_put_self _ _ _, ?_⟩
  rw [Keyed.put_put, Keyed.put_put, Keyed.put_put]

/-- The main schema has a text. -/
theorem hasText_mergeProperties {schema merged : Json} {properties : List (String × Json)}
    (h : mergeProperties schema properties = .ok merged)
    (hschema : schema.Every HasText fun _ => True)
    (hproperties : ∀ property ∈ properties, property.2.Every HasText fun _ => True) :
    merged.Every HasText fun _ => True := by
  have hput : ∀ {members : List (String × Json)} {key : String} {value : Json},
      (∀ member ∈ members, member.2.Every HasText fun _ => True) →
      (value.Every HasText fun _ => True) →
      (Json.obj (Keyed.put members key value)).Every HasText fun _ => True := by
    intro members key value hmembers hvalue
    refine Json.every_obj.2 ⟨trivial, fun member hmember => ?_⟩
    obtain hmember | rfl := Keyed.mem_put hmember
    · exact hmembers member hmember
    · exact hvalue
  obtain ⟨members, definitions, settings, rfl, hmembers, hdefinitions, rfl⟩ :=
    mergeProperties_eq_ok.1 h
  have hvalues := (Json.every_obj.1 hschema).2
  have hdefinitionValues := (Json.every_obj.1 (hvalues _ (Keyed.mem_of_get? hmembers))).2
  have hsettingValues :=
    (Json.every_obj.1 (hdefinitionValues _ (Keyed.mem_of_get? hdefinitions))).2
  exact hput hvalues (hput hdefinitionValues (hput hsettingValues
    (Json.every_obj.2 ⟨trivial, hproperties⟩)))

/-! ### The task schema -/

theorem syncDefinitions_eq_ok {main task synced : Json} : syncDefinitions main task = .ok synced ↔
    ∃ members definitions, task = .obj members
      ∧ Keyed.get? members "$defs" = some (.obj definitions)
      ∧ synced = .obj (Keyed.put members "$defs"
          (.obj (sharedDefinitions.foldl (copyDefinition main) definitions))) := by
  constructor
  · intro h
    unfold syncDefinitions at h
    split at h
    · rename_i definitions hdefinitions
      obtain ⟨members, rfl, hmembers⟩ := exists_of_get? hdefinitions
      cases h
      exact ⟨members, definitions, rfl, hmembers, rfl⟩
    · cases h
  · rintro ⟨members, definitions, rfl, hmembers, rfl⟩
    simp only [syncDefinitions, Json.get?_obj, hmembers, Json.set]

/-- A definition of the main schema. -/
def definition? (main : Json) (name : String) : Option Json :=
  (main.get? "$defs").bind (·.get? name)

theorem copyDefinition_of_some {main definition : Json} {name : String}
    (h : definition? main name = some definition) (definitions : List (String × Json)) :
    copyDefinition main definitions name = Keyed.put definitions name definition := by
  rw [definition?] at h
  rw [copyDefinition, h]

theorem copyDefinition_of_none {main : Json} {name : String} (h : definition? main name = none)
    (definitions : List (String × Json)) : copyDefinition main definitions name = definitions := by
  rw [definition?] at h
  rw [copyDefinition, h]

/-- A definition of the main schema stays in place when others are copied. -/
theorem get?_copyDefinition {main definition : Json} {name : String}
    (h : definition? main name = some definition) {definitions : List (String × Json)}
    (hget : Keyed.get? definitions name = some definition) (other : String) :
    Keyed.get? (copyDefinition main definitions other) name = some definition := by
  cases hother : definition? main other with
  | none => rwa [copyDefinition_of_none hother]
  | some found =>
    rw [copyDefinition_of_some hother]
    by_cases hname : other = name
    · subst hname
      rw [h] at hother
      cases hother
      exact Keyed.get?_put_self _ _ _
    · rwa [Keyed.get?_put_of_ne hname]

/-- Copied definitions are those of the main schema. -/
theorem get?_foldl_copyDefinition {main definition : Json} {name : String}
    (h : definition? main name = some definition) : ∀ (names : List String)
    (definitions : List (String × Json)),
    name ∈ names ∨ Keyed.get? definitions name = some definition →
      Keyed.get? (names.foldl (copyDefinition main) definitions) name = some definition
  | [], definitions, hfound => hfound.resolve_left List.not_mem_nil
  | first :: rest, definitions, hfound => by
    refine get?_foldl_copyDefinition h rest _ ?_
    obtain hmem | hget := hfound
    · obtain rfl | hmem := List.mem_cons.1 hmem
      · rw [copyDefinition_of_some h]
        exact .inr (Keyed.get?_put_self _ _ _)
      · exact .inl hmem
    · exact .inr (get?_copyDefinition h hget first)

/-- Definitions that were copied are the same when they are copied again. -/
theorem foldl_copyDefinition_foldl (main : Json) (names : List String)
    (definitions : List (String × Json)) :
    names.foldl (copyDefinition main) (names.foldl (copyDefinition main) definitions)
      = names.foldl (copyDefinition main) definitions := by
  generalize hcopied : names.foldl (copyDefinition main) definitions = copied
  have hsame : ∀ name ∈ names, copyDefinition main copied name = copied := by
    intro name hname
    cases h : definition? main name with
    | none => exact copyDefinition_of_none h copied
    | some definition =>
      rw [copyDefinition_of_some h, Keyed.put_eq_self]
      exact hcopied ▸ get?_foldl_copyDefinition h names definitions (.inl hname)
  have hfoldl : ∀ others : List String, (∀ name ∈ others, copyDefinition main copied name = copied) →
      others.foldl (copyDefinition main) copied = copied := by
    intro others
    induction others with
    | nil => exact fun _ => rfl
    | cons name rest ih =>
      intro hothers
      obtain ⟨hname, hrest⟩ := List.forall_mem_cons.1 hothers
      rw [List.foldl_cons, hname, ih hrest]
  exact hfoldl names hsame

/-- The task schema is the same when the definitions are copied again. -/
theorem syncDefinitions_synced {main task synced : Json}
    (h : syncDefinitions main task = .ok synced) : syncDefinitions main synced = .ok synced := by
  obtain ⟨members, definitions, rfl, -, rfl⟩ := syncDefinitions_eq_ok.1 h
  refine syncDefinitions_eq_ok.2 ⟨_, _, rfl, Keyed.get?_put_self _ _ _, ?_⟩
  rw [Keyed.put_put, foldl_copyDefinition_foldl]

/-- A definition of the main schema other than the settings does not depend on them. -/
theorem definition?_of_mergeProperties {schema merged : Json} {properties : List (String × Json)}
    (h : mergeProperties schema properties = .ok merged) {name : String} (hname : name ≠ "settings") :
    definition? merged name = definition? schema name := by
  obtain ⟨members, definitions, settings, rfl, hmembers, hdefinitions, rfl⟩ :=
    mergeProperties_eq_ok.1 h
  simp only [definition?, Json.get?_obj, Keyed.get?_put_self, hmembers, Option.bind_some,
    Keyed.get?_put_of_ne hname.symm]

theorem sound_definition? {scalar : Json → Prop} {room : Nat} {main definition : Json} {name : String}
    (hmain : main.Sound scalar (room + 1 + 1)) (h : definition? main name = some definition) :
    definition.Sound scalar room := by
  obtain ⟨definitions, hdefinitions, hget⟩ := Option.bind_eq_some_iff.1 h
  obtain ⟨members, rfl, hmembers⟩ := exists_of_get? hdefinitions
  obtain ⟨entries, rfl, hentries⟩ := exists_of_get? hget
  exact (Json.sound_obj.1 ((Json.sound_obj.1 hmain).2 _ (Keyed.mem_of_get? hmembers))).2 _
    (Keyed.mem_of_get? hentries)

/-- Copied definitions that are sound keep the task schema sound. -/
theorem sound_syncDefinitions {scalar : Json → Prop} {room : Nat} {main task synced : Json}
    (h : syncDefinitions main task = .ok synced) (htask : task.Sound scalar (room + 1 + 1))
    (hmain : ∀ name ∈ sharedDefinitions, ∀ definition ∈ definition? main name,
      definition.Sound scalar room) : synced.Sound scalar (room + 1 + 1) := by
  have hfoldl : ∀ (names : List String) (definitions : List (String × Json)),
      (∀ name ∈ names, ∀ definition ∈ definition? main name, definition.Sound scalar room) →
      (Json.obj definitions).Sound scalar (room + 1) →
      (Json.obj (names.foldl (copyDefinition main) definitions)).Sound scalar (room + 1) := by
    intro names
    induction names with
    | nil => exact fun _ _ hdefinitions => hdefinitions
    | cons name rest ih =>
      intro definitions hnames hdefinitions
      obtain ⟨hname, hrest⟩ := List.forall_mem_cons.1 hnames
      refine ih _ hrest ?_
      cases hfound : definition? main name with
      | none => rwa [copyDefinition_of_none hfound]
      | some definition =>
        rw [copyDefinition_of_some hfound]
        exact Json.sound_obj_put hdefinitions (hname _ hfound)
  obtain ⟨members, definitions, rfl, hmembers, rfl⟩ := syncDefinitions_eq_ok.1 h
  have hdefinitions := (Json.sound_obj.1 htask).2 _ (Keyed.mem_of_get? hmembers)
  exact Json.sound_obj_put htask (hfoldl _ _ hmain hdefinitions)

end Setting

end Catalog
