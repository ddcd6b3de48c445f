import Catalog.Proofs.Json.Document
import Catalog.Proofs.Setting.Entry
import Catalog.Proofs.Toml.Tables
import Catalog.Proofs.Toml.Undated
import Catalog.Setting.Schema

/-!
The properties of the JSON schema cover the settings. Main statement: each key of the document has one
property. That of a single setting is its schema, and that of a group is a closed object with one
property for each member, under the name that the member has in the group.
-/

namespace Catalog.Setting

open Toml (Value Table)

/-! ### Members -/

/-- The name of a member is cut off again from its key, whatever dots the name or the group have. -/
theorem memberName_memberKey (group name : String) :
    memberName group (memberKey group name) = name := by
  have hcut : (group.toList ++ ['.']).isPrefixOf? (memberKey group name).toList
      = some name.toList := by
    rw [List.isPrefixOf?_eq_some_iff_append_eq]
    simp [memberKey]
  rw [memberName, hcut]
  exact String.ofList_toList

/-- The settings of a group under the names of its members, each built from the table there. -/
structure Group.Lists (key : String) (table : Table) (group : Group)
    (members : List (String × Element)) : Prop where
  names : Keyed.keys members = memberNames table
  settings : members.map (·.2) = group.settings
  built : ∀ member ∈ members, ∃ inner, (member.1, .table inner) ∈ table
    ∧ Element.build (memberKey key member.1) inner = .ok member.2

theorem mem_of_mem_members {key : String} {table : Table} {source : GroupSource}
    (h : GroupSource.ofTable key table = .ok source) {entry : String × Value}
    (hentry : entry ∈ source.members) : entry ∈ table := by
  unfold GroupSource.ofTable at h
  split at h
  · cases h
  · cases h
    exact (List.mem_filter.1 hentry).1

theorem exists_lists_of_buildGroup {key : String} {table : Table} {group : Group}
    (h : Group.build key table = .ok group) : ∃ members, group.Lists key table members := by
  simp only [Group.build, Result.bind_eq_ok, Result.pure_eq_ok] at h
  obtain ⟨source, hsource, settings, hsettings, rfl⟩ := h
  obtain ⟨pairs, hitems, hresults, hall⟩ := Result.exists_pairs_of_mapM hsettings
  refine ⟨pairs.map fun pair => (pair.1.1, pair.2), ⟨?_, ?_, ?_⟩⟩
  · have hnames := keys_members hsource
    rw [memberNames, keys_undatedEntries, ← memberNames] at hnames
    rw [← hnames, ← hitems, Keyed.keys, Keyed.keys, List.map_map, List.map_map]
    rfl
  · rw [List.map_map, ← hresults]
    rfl
  · intro member hmember
    obtain ⟨⟨⟨name, value⟩, element⟩, hpair, rfl⟩ := List.mem_map.1 hmember
    obtain ⟨inner, hinner, hbuild⟩ := Result.bind_eq_ok.1 (hall _ hpair)
    have hentry : (name, value) ∈ source.members := hitems ▸ List.mem_map_of_mem hpair
    obtain ⟨authored, hauthored, hvalue⟩ :=
      Value.exists_of_mem_undatedEntries (mem_of_mem_members hsource hentry)
    have htable : authored.undated = .table inner := hvalue ▸ eq_of_expectTable hinner
    obtain ⟨table', rfl, rfl⟩ := Value.undated_eq_table htable
    rw [Element.build, Value.undatedEntries_undatedEntries] at hbuild
    exact ⟨table', hauthored, hbuild⟩

/-- The properties of a group are those of its members, under their names. -/
theorem Group.Lists.properties {key : String} {table : Table} {group : Group}
    {members : List (String × Element)} (hkeys : (Keyed.keys table).Nodup) (hkey : group.key = key)
    (h : group.Lists key table members) :
    Keyed.ofPairs (group.settings.map fun element =>
        (memberName group.key element.key, element.schema))
      = members.map fun member => (member.1, member.2.schema) := by
  have hnames : group.settings.map (fun element =>
      (memberName group.key element.key, element.schema))
        = members.map fun member => (member.1, member.2.schema) := by
    rw [← h.settings, List.map_map]
    refine List.map_congr_left fun member hmember => ?_
    obtain ⟨inner, -, hbuild⟩ := h.built member hmember
    rw [Function.comp_apply, key_of_build hbuild, hkey, memberName_memberKey]
  rw [hnames]
  refine Keyed.ofPairs_of_nodup ?_
  have hmembers : Keyed.keys (members.map fun member => (member.1, member.2.schema))
      = memberNames table := by
    rw [← h.names, Keyed.keys, List.map_map]
    rfl
  rw [hmembers]
  exact hkeys.filter _

theorem get?_groupSchema (group : Group) :
    group.schema.get? "type" = some (.str "object")
      ∧ group.schema.get? "additionalProperties" = some (.bool false)
      ∧ group.schema.get? "properties" = some (.obj (Keyed.ofPairs (group.settings.map fun element =>
          (memberName group.key element.key, element.schema)))) := by
  obtain ⟨key, description, deprecated, hide, settings⟩ := group
  cases description <;> cases deprecated <;> exact ⟨rfl, rfl, rfl⟩

/-! ### Entries -/

/-- What a property shows of the table under a key: a setting that is built from it, or a closed object
with the settings of its members under their names. -/
def Entry.Shows (key : String) (table : Table) (property : Json) : Entry → Prop
  | leaf element => "type" ∈ Keyed.keys table ∧ Element.build key table = .ok element
      ∧ property = element.schema
  | group g => "type" ∉ Keyed.keys table
      ∧ property.get? "type" = some (.str "object")
      ∧ property.get? "additionalProperties" = some (.bool false)
      ∧ ∃ members, g.Lists key table members
        ∧ property.get? "properties"
          = some (.obj (members.map fun member => (member.1, member.2.schema)))

theorem shows_of_buildEntry {key : String} {value : Value} {entry : Entry}
    (hdistinct : value.Distinct) (h : Entry.build key value = .ok entry) :
    ∃ table, value = .table table ∧ entry.Shows key table entry.schema := by
  obtain ⟨table, htable, h⟩ := Result.bind_eq_ok.1 h
  have hvalue := eq_of_expectTable htable
  refine ⟨table, hvalue, ?_⟩
  split at h
  · rename_i htype
    obtain ⟨element, helement, hentry⟩ := Result.bind_eq_ok.1 h
    cases hentry
    exact ⟨Keyed.has_iff.1 htype, helement, rfl⟩
  · rename_i htype
    obtain ⟨g, hg, hentry⟩ := Result.bind_eq_ok.1 h
    cases hentry
    obtain ⟨hobject, hclosed, hproperties⟩ := get?_groupSchema g
    obtain ⟨members, hmembers⟩ := exists_lists_of_buildGroup hg
    have hkeys := (Value.everyTable_table.1 (hvalue ▸ hdistinct)).1
    refine ⟨fun hmem => htype (Keyed.has_iff.2 hmem), hobject, hclosed, members, hmembers, ?_⟩
    rw [Entry.schema, hproperties, hmembers.properties hkeys (keys_of_buildGroup hg).1]

/-! ### The whole document -/

theorem properties_of_nodup {entries : List Entry} (h : (entries.map Entry.key).Nodup) :
    properties entries = entries.map fun entry => (entry.key, entry.schema) := by
  refine Keyed.ofPairs_of_nodup ?_
  rw [Keyed.keys, List.map_map]
  exact h

/-- Nothing in a document is left out. -/
theorem exists_entry_of_get? {document : Table} {entries : List Entry} {key : String} {value : Value}
    (h : build document = .ok entries) (hvalue : Keyed.get? document key = some value) :
    ∃ entry ∈ entries, Entry.build key value = .ok entry := by
  obtain ⟨authored, hauthored, rfl⟩ := exists_of_build h
  obtain ⟨pairs, hitems, hresults, hall⟩ := Result.exists_pairs_of_mapM hauthored
  have hmem := Keyed.mem_of_get? hvalue
  rw [← hitems] at hmem
  obtain ⟨⟨item, entry⟩, hpair, rfl⟩ := List.mem_map.1 hmem
  refine ⟨entry, ?_, hall _ hpair⟩
  rw [(Collation.sortBy_perm Entry.key authored).mem_iff, ← hresults]
  exact List.mem_map_of_mem hpair

/-- The properties have the keys of the document, each once, in the order of the entries. The property
at a key shows the table there, whether it is hidden or not: a single setting as its schema, and a group
as a closed object with its members under the names that they were authored under. -/
theorem properties_cover {document : Table} {entries : List Entry}
    (hdistinct : (Value.table document).Distinct) (h : build document = .ok entries) :
    Keyed.keys (properties entries) = entries.map Entry.key
      ∧ (Keyed.keys (properties entries)).Nodup
      ∧ (Keyed.keys (properties entries)).Perm (Keyed.keys document)
      ∧ ∀ key value, Keyed.get? document key = some value →
          ∃ table property entry, value = .table table
            ∧ Keyed.get? (properties entries) key = some property
            ∧ entry ∈ entries ∧ entry.key = key ∧ entry.Shows key table property := by
  obtain ⟨hkeys, hall⟩ := Value.everyTable_table.1 hdistinct
  have hperm := perm_keys_of_build h
  have hnodup := hperm.nodup_iff.2 hkeys
  have hproperties := properties_of_nodup hnodup
  have hnames : Keyed.keys (properties entries) = entries.map Entry.key := by
    rw [hproperties, Keyed.keys, List.map_map]
    rfl
  rw [hnames]
  refine ⟨rfl, hnodup, hperm, ?_⟩
  intro key value hvalue
  obtain ⟨entry, hentry, hbuild⟩ := exists_entry_of_get? h hvalue
  obtain ⟨table, htable, hshows⟩ := shows_of_buildEntry (hall _ (Keyed.mem_of_get? hvalue)) hbuild
  have hkey := (follows_of_buildEntry hbuild).1
  refine ⟨table, entry.schema, entry, htable, ?_, hentry, hkey, hshows⟩
  rw [← hkey]
  refine Keyed.get?_of_mem (hnames ▸ hnodup) ?_
  rw [hproperties]
  exact List.mem_map_of_mem hentry

/-- A hidden group with a member that has its key, one whose name starts with its key and a dot, and one
without a name; a group without a key; and a setting whose key is that of the first group and a dot. -/
def nestedDocument : Table :=
  [("a", .table [("a", switchTable), ("a.b", switchTable), ("hide", .boolean true), ("", switchTable)]),
    ("", .table [(".", switchTable)]), ("a.", switchTable)]

theorem properties_cover_nestedDocument :
    (Value.table nestedDocument).Distinct
      ∧ ∃ entries, build nestedDocument = .ok entries
        ∧ (Keyed.keys (properties entries)).Perm ["a", "", "a."]
        ∧ ∃ property members, Keyed.get? (properties entries) "a" = some property
          ∧ property.get? "additionalProperties" = some (.bool false)
          ∧ property.get? "properties" = some (.obj members)
          ∧ Keyed.keys members = ["a", "a.b", ""] := by
  have hdistinct : (Value.table nestedDocument).Distinct := by
    simp [nestedDocument, switchTable, Value.EveryTable, Value.EveryEntry, Keyed.keys]
  obtain ⟨entries, hbuild⟩ : ∃ entries, build nestedDocument = .ok entries := ⟨_, rfl⟩
  obtain ⟨-, -, hnames, hall⟩ := properties_cover hdistinct hbuild
  obtain ⟨table, property, entry, htable, hproperty, -, -, hshows⟩ := hall "a" _ rfl
  cases htable
  refine ⟨hdistinct, entries, hbuild, hnames, property, ?_⟩
  cases entry with
  | leaf element =>
    obtain ⟨htype, -⟩ := hshows
    simp [Keyed.keys] at htype
  | group g =>
    obtain ⟨-, -, hclosed, members, hlists, hmembers⟩ := hshows
    refine ⟨_, hproperty, hclosed, hmembers, ?_⟩
    have hkeys := hlists.names
    rw [Keyed.keys] at hkeys
    rw [Keyed.keys, List.map_map]
    exact hkeys

end Catalog.Setting
