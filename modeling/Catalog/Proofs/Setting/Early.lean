import Catalog.Proofs.Keyed
import Catalog.Proofs.Setting.Properties
import Catalog.Proofs.Setting.Rules

/-!
The schema of the settings that are read early, beside the one of all settings. Main statement: its
properties are those of all settings at the keys of the single settings that are marked as read early, in the
same order. No group has a part in it, whatever its members are marked as, so that taking the groups out of
the document changes nothing, and neither does any arrangement of the document.
-/

namespace Catalog.Setting

open Toml (Value Table)

/-- Whether a value is the table of a single setting. -/
def isSingle : Value → Bool
  | .table table => Keyed.has table "type"
  | _ => false

/-- Whether a value is the table of a single setting that is read early, hidden or not. -/
def isEarly : Value → Bool
  | .table table => Keyed.has table "type" && setsFlag table "rc"
  | _ => false

/-- The keys of the single settings of a document that are read early. -/
def earlyKeys (document : Table) : List String :=
  Keyed.keys (document.filter fun entry => isEarly entry.2)

namespace Entry

/-- Whether an entry is a single setting. -/
def isLeaf : Entry → Bool
  | leaf _ => true
  | group _ => false

/-- Whether an entry is a single setting that is read early. -/
def isRc : Entry → Bool
  | leaf element => element.rc
  | group _ => false

theorem rcProperty?_eq (entry : Entry) :
    entry.rcProperty? = if entry.isRc then some (entry.key, entry.schema) else none := by
  cases entry <;> rfl

theorem isRc_iff {entry : Entry} :
    entry.isRc = true ↔ ∃ element, entry = leaf element ∧ element.rc = true := by
  cases entry <;> simp [isRc]

end Entry

/-! ### Entries -/

section build

variable {key : String} {table document : Table} {value : Value} {element : Element} {entry : Entry}
  {entries : List Entry}

theorem rc_of_build (h : Element.build key table = .ok element) :
    element.rc = setsFlag table "rc" := by
  obtain ⟨source, hsource, helement⟩ := Result.bind_eq_ok.1 h
  have hrc : source.rc = setsFlag table "rc" := by
    unfold Source.ofTable at hsource
    split at hsource
    · cases hsource
    · cases hsource
      exact getD_flag?_undatedEntries table "rc"
  simp only [Element.ofSource, Result.bind_eq_ok, Result.pure_eq_ok] at helement
  obtain ⟨_, -, _, -, _, -, _, -, rfl⟩ := helement
  exact hrc

/-- What an entry is and whether it is read early is said by the value that it is built from. -/
theorem isRc_of_buildEntry (h : Entry.build key value = .ok entry) :
    entry.isLeaf = isSingle value ∧ entry.isRc = isEarly value := by
  obtain ⟨table, htable, hbuild⟩ := Result.bind_eq_ok.1 h
  obtain rfl := eq_of_expectTable htable
  rw [isSingle, isEarly]
  split at hbuild
  · rename_i htype
    obtain ⟨element, helement, hentry⟩ := Result.bind_eq_ok.1 hbuild
    cases hentry
    rw [htype, Bool.true_and]
    exact ⟨rfl, rc_of_build helement⟩
  · rename_i htype
    obtain ⟨group, -, hentry⟩ := Result.bind_eq_ok.1 hbuild
    cases hentry
    rw [Bool.not_eq_true] at htype
    rw [htype, Bool.false_and]
    exact ⟨rfl, rfl⟩

theorem mem_earlyKeys_iff (hkeys : (Keyed.keys document).Nodup) (hmem : (key, value) ∈ document) :
    key ∈ earlyKeys document ↔ isEarly value = true := by
  rw [earlyKeys, Keyed.keys, List.mem_map]
  constructor
  · rintro ⟨⟨_, other⟩, hother, rfl⟩
    obtain ⟨hother, hearly⟩ := List.mem_filter.1 hother
    have hsame := (Keyed.get?_of_mem hkeys hmem).symm.trans (Keyed.get?_of_mem hkeys hother)
    rwa [Option.some.inj hsame]
  · intro hearly
    exact ⟨(key, value), List.mem_filter.2 ⟨hmem, hearly⟩, rfl⟩

theorem isRc_iff_mem_earlyKeys (hkeys : (Keyed.keys document).Nodup) (h : build document = .ok entries)
    (hentry : entry ∈ entries) : entry.isRc = true ↔ entry.key ∈ earlyKeys document := by
  obtain ⟨authored, hauthored, rfl⟩ := exists_of_build h
  have hmem := (Collation.sortBy_perm Entry.key authored).mem_iff.1 hentry
  obtain ⟨⟨key, value⟩, hitem, hbuild⟩ := Result.exists_of_mem_mapM hauthored hmem
  obtain ⟨rfl, -⟩ := follows_of_buildEntry hbuild
  rw [mem_earlyKeys_iff hkeys hitem, (isRc_of_buildEntry hbuild).2]

/-! ### Properties -/

theorem rcProperties_of_nodup (h : (entries.map Entry.key).Nodup) :
    rcProperties entries
      = (entries.filter Entry.isRc).map fun entry => (entry.key, entry.schema) := by
  have hpairs : entries.filterMap Entry.rcProperty?
      = (entries.filter Entry.isRc).map fun entry => (entry.key, entry.schema) := by
    rw [funext Entry.rcProperty?_eq, ← List.filterMap_eq_map, List.filterMap_filter]
    rfl
  rw [rcProperties, hpairs]
  refine Keyed.ofPairs_of_nodup ?_
  rw [Keyed.keys, List.map_map]
  exact h.sublist (List.filter_sublist.map Entry.key)

/-- Groups have no part in the properties. -/
theorem rcProperties_filter_isLeaf (entries : List Entry) :
    rcProperties (entries.filter Entry.isLeaf) = rcProperties entries := by
  have hnone : ∀ entry : Entry, (if entry.isLeaf then entry.rcProperty? else none)
      = entry.rcProperty? := by
    intro entry
    cases entry <;> rfl
  rw [rcProperties, List.filterMap_filter, funext hnone, rcProperties]

theorem rcSchema_congr {others : List Entry} (h : rcProperties others = rcProperties entries) :
    rcSchema others = rcSchema entries := by
  rw [rcSchema, rcSchema, h]

/-! ### The whole document -/

theorem build_of_perm {others : Table} (hkeys : (Keyed.keys document).Nodup)
    (h : build document = .ok entries) (hperm : document.Perm others) : build others = .ok entries := by
  obtain ⟨authored, hauthored, rfl⟩ := exists_of_build h
  obtain ⟨arranged, hothers, harranged⟩ := Result.mapM_perm hauthored hperm
  rw [Collation.sortBy_eq_of_perm (keys_of_mapM hauthored ▸ hkeys) harranged]
  exact Result.bind_eq_ok.2 ⟨arranged, hothers, rfl⟩

/-- Without its groups, a document has the single settings among its entries. -/
theorem build_singles (hkeys : (Keyed.keys document).Nodup) (h : build document = .ok entries) :
    build (document.filter fun entry => isSingle entry.2) = .ok (entries.filter Entry.isLeaf) := by
  obtain ⟨authored, hauthored, rfl⟩ := exists_of_build h
  have hsame : ∀ (item : String × Value) entry, Entry.build item.1 item.2 = .ok entry →
      entry.isLeaf = isSingle item.2 := fun _ _ hentry => (isRc_of_buildEntry hentry).1
  rw [← Collation.sortBy_filter (keys_of_mapM hauthored ▸ hkeys)]
  exact Result.bind_eq_ok.2 ⟨_, Result.mapM_filter hsame hauthored, rfl⟩

/-- The properties of the settings that are read early are those of all settings at the keys of the single
settings that are marked so, hidden ones included, with the same schemas in the same order. Each is that of a
single setting: no group and no member of one has a part in them, and a document without its groups gives the
same schema. So does any arrangement of the document. -/
theorem rcSchema_restricts (hkeys : (Keyed.keys document).Nodup) (h : build document = .ok entries) :
    (rcSchema entries).get? "properties"
        = some (.obj ((properties entries).filter fun property => property.1 ∈ earlyKeys document))
      ∧ (∀ property, property ∈ rcProperties entries ↔ ∃ element, .leaf element ∈ entries
          ∧ element.rc = true ∧ property = (element.key, element.schema))
      ∧ (∃ singles, build (document.filter fun entry => isSingle entry.2) = .ok singles
          ∧ rcSchema singles = rcSchema entries)
      ∧ ∀ others : Table, document.Perm others →
          ∃ arranged, build others = .ok arranged ∧ rcSchema arranged = rcSchema entries := by
  have hnodup : (entries.map Entry.key).Nodup := (perm_keys_of_build h).nodup_iff.2 hkeys
  have hproperties := rcProperties_of_nodup hnodup
  refine ⟨?_, fun property => ?_, ?_, fun others hperm => ?_⟩
  · have hget : (rcSchema entries).get? "properties" = some (.obj (rcProperties entries)) := rfl
    rw [hget, hproperties, properties_of_nodup hnodup, List.filter_map]
    refine congrArg (fun kept => some (Json.obj (List.map _ kept))) (List.filter_congr ?_)
    intro entry hentry
    rw [Bool.eq_iff_iff, isRc_iff_mem_earlyKeys hkeys h hentry]
    simp
  · rw [hproperties, List.mem_map]
    constructor
    · rintro ⟨entry, hentry, rfl⟩
      obtain ⟨hmem, hrc⟩ := List.mem_filter.1 hentry
      obtain ⟨element, rfl, hrc⟩ := Entry.isRc_iff.1 hrc
      exact ⟨element, hmem, hrc, rfl⟩
    · rintro ⟨element, hmem, hrc, rfl⟩
      exact ⟨.leaf element, List.mem_filter.2 ⟨hmem, hrc⟩, rfl⟩
  · exact ⟨_, build_singles hkeys h, rcSchema_congr (rcProperties_filter_isLeaf entries)⟩
  · exact ⟨entries, build_of_perm hkeys h hperm, rfl⟩

end build

/-- A hidden setting that is read early under the key that a member of a group has, the group with that member
marked as read early too, a setting that is not read early, and one without a key that is. -/
def earlyDocument : Table :=
  [("g.m", .table [("type", .string "Bool"), ("description", .string "Quoted"), ("rc", .boolean true),
      ("hide", .boolean true)]),
    ("g", .table [("m", .table [("type", .string "Integer"), ("description", .string "Member"),
      ("rc", .boolean true)])]),
    ("late", .table [("type", .string "Bool"), ("description", .string "Late"), ("rc", .boolean false)]),
    ("", .table [("type", .string "Path"), ("description", .string "Unnamed"), ("rc", .boolean true)])]

theorem rcSchema_restricts_earlyDocument :
    (Keyed.keys earlyDocument).Nodup
      ∧ ∃ entries, build earlyDocument = .ok entries
        ∧ (rcSchema entries).get? "properties"
          = some (.obj ((properties entries).filter fun property => property.1 ∈ ["g.m", ""]))
        ∧ ∃ arranged, build earlyDocument.reverse = .ok arranged
          ∧ rcSchema arranged = rcSchema entries := by
  have hkeys : (Keyed.keys earlyDocument).Nodup := by simp [earlyDocument, Keyed.keys]
  have hearly : earlyKeys earlyDocument = ["g.m", ""] := by decide
  obtain ⟨entries, hbuild⟩ : ∃ entries, build earlyDocument = .ok entries := ⟨_, rfl⟩
  obtain ⟨hproperties, -, -, harranged⟩ := rcSchema_restricts hkeys hbuild
  rw [hearly] at hproperties
  exact ⟨hkeys, entries, hbuild, hproperties, harranged _ earlyDocument.reverse_perm.symm⟩

end Catalog.Setting
