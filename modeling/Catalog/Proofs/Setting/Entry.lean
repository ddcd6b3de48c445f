import Catalog.Proofs.Collation
import Catalog.Proofs.Result
import Catalog.Setting.Entry

/-!
The entries of a settings document. Main statement: there is one entry for each key of the document, in
the order of the keys; the table under its key decides whether it is a single setting or a group, and
which members a group has; and the arrangement of the document does not matter.
-/

namespace Catalog.Setting

open Collation (Ascending)
open Toml (Value Table)

/-! ### Keys -/

theorem key_of_ofSource {key : String} {source : Source} {element : Element}
    (h : Element.ofSource key source = .ok element) : element.key = key := by
  simp only [Element.ofSource, Result.bind_eq_ok, Result.pure_eq_ok] at h
  obtain ⟨_, -, _, -, _, -, _, -, rfl⟩ := h
  rfl

theorem key_of_build {key : String} {table : Table} {element : Element}
    (h : Element.build key table = .ok element) : element.key = key := by
  obtain ⟨source, -, hsource⟩ := Result.bind_eq_ok.1 h
  exact key_of_ofSource hsource

/-- The keys of the members of a group: all but those of what is said about the group itself. -/
def memberNames (table : Table) : List String :=
  (Keyed.keys table).filter (· ∉ ["description", "deprecated", "hide"])

theorem keys_undatedEntries (table : Table) :
    Keyed.keys (Value.undatedEntries table) = Keyed.keys table := by
  induction table with
  | nil => rfl
  | cons head rest ih => exact congrArg (head.1 :: ·) ih

theorem has_groupFields (name : String) :
    Keyed.has groupFields name = decide (name ∈ ["description", "deprecated", "hide"]) := by
  rw [Bool.eq_iff_iff, Keyed.has_iff, decide_eq_true_iff]
  rfl

theorem keys_members {key : String} {table : Table} {source : GroupSource}
    (h : GroupSource.ofTable key table = .ok source) :
    Keyed.keys source.members = memberNames table := by
  unfold GroupSource.ofTable at h
  split at h
  · cases h
  · cases h
    simp only [memberNames, Keyed.keys, has_groupFields, List.filter_map]
    refine congrArg _ (List.filter_congr fun entry _ => ?_)
    simp

/-- The members of a group keep their order. -/
theorem keys_of_buildGroup {key : String} {table : Table} {group : Group}
    (h : Group.build key table = .ok group) :
    group.key = key ∧ group.settings.map Element.key = (memberNames table).map (memberKey key) := by
  simp only [Group.build, Result.bind_eq_ok, Result.pure_eq_ok] at h
  obtain ⟨source, hsource, settings, hsettings, rfl⟩ := h
  have hnames : Keyed.keys source.members = memberNames table := by
    rw [keys_members hsource, memberNames, keys_undatedEntries, memberNames]
  have hkeys : settings.map Element.key = source.members.map (memberKey key ∘ (·.1)) := by
    refine Result.map_eq_of_mapM ?_ hsettings
    rintro ⟨name, value⟩ element helement
    obtain ⟨table, -, hbuild⟩ := Result.bind_eq_ok.1 helement
    exact key_of_build hbuild
  refine ⟨rfl, ?_⟩
  rw [hkeys, ← List.map_map, ← hnames, Keyed.keys]

/-! ### Entries -/

theorem eq_of_expectTable {key : String} {value : Value} {table : Table}
    (h : expectTable key value = .ok table) : value = .table table := by
  cases value <;> simp_all [expectTable, Value.table?]

/-- What the table under the key of an entry decides about it. -/
def Entry.Follows (table : Table) : Entry → Prop
  | leaf _ => "type" ∈ Keyed.keys table
  | group g => "type" ∉ Keyed.keys table
      ∧ g.settings.map Element.key = (memberNames table).map fun name => g.key ++ "." ++ name

/-- An entry has the key that it stands under, and is decided by the table there. -/
theorem follows_of_buildEntry {key : String} {value : Value} {entry : Entry}
    (h : Entry.build key value = .ok entry) :
    entry.key = key ∧ ∃ table, value = .table table ∧ entry.Follows table := by
  obtain ⟨table, htable, h⟩ := Result.bind_eq_ok.1 h
  have hvalue := eq_of_expectTable htable
  split at h
  · rename_i htype
    obtain ⟨element, helement, hentry⟩ := Result.bind_eq_ok.1 h
    cases hentry
    exact ⟨key_of_build helement, table, hvalue, Keyed.has_iff.1 htype⟩
  · rename_i htype
    obtain ⟨g, hg, hentry⟩ := Result.bind_eq_ok.1 h
    cases hentry
    obtain ⟨hkey, hmembers⟩ := keys_of_buildGroup hg
    refine ⟨hkey, table, hvalue, fun hmem => htype (Keyed.has_iff.2 hmem), ?_⟩
    rw [hmembers, hkey]
    rfl

/-! ### The whole document -/

/-- The entries of a document before they are ordered. -/
theorem exists_of_build {document : Table} {entries : List Entry} (h : build document = .ok entries) :
    ∃ authored, document.mapM (fun entry => Entry.build entry.1 entry.2) = .ok authored
      ∧ entries = Collation.sortBy Entry.key authored := by
  obtain ⟨authored, hauthored, hentries⟩ := Result.bind_eq_ok.1 h
  exact ⟨authored, hauthored, (Result.pure_eq_ok.1 hentries).symm⟩

theorem keys_of_mapM {document : Table} {authored : List Entry}
    (h : document.mapM (fun entry => Entry.build entry.1 entry.2) = .ok authored) :
    authored.map Entry.key = Keyed.keys document :=
  Result.map_eq_of_mapM (fun _ _ hentry => (follows_of_buildEntry hentry).1) h

/-- There is one entry for each key of a document. -/
theorem perm_keys_of_build {document : Table} {entries : List Entry}
    (h : build document = .ok entries) : (entries.map Entry.key).Perm (Keyed.keys document) := by
  obtain ⟨authored, hauthored, rfl⟩ := exists_of_build h
  rw [← keys_of_mapM hauthored]
  exact (Collation.sortBy_perm Entry.key authored).map Entry.key

/-- The entries of a document stand in strictly ascending order of their keys, one for each key. The
table under its key decides what an entry is: a single setting if it has a type, and otherwise a group
of the settings under its other keys. Any arrangement of the document has the same entries. -/
theorem build_arranged {document : Table} {entries : List Entry}
    (hkeys : (Keyed.keys document).Nodup) (h : build document = .ok entries) :
    Ascending Entry.key entries
      ∧ (entries.map Entry.key).Perm (Keyed.keys document)
      ∧ (∀ entry ∈ entries, ∃ table,
          Keyed.get? document entry.key = some (.table table) ∧ entry.Follows table)
      ∧ ∀ others : Table, document.Perm others → build others = .ok entries := by
  obtain ⟨authored, hauthored, rfl⟩ := exists_of_build h
  have hnames := keys_of_mapM hauthored
  have hdistinct : (authored.map Entry.key).Nodup := hnames ▸ hkeys
  refine ⟨Collation.ascending_sortBy hdistinct, ?_, ?_, ?_⟩
  · rw [← hnames]
    exact (Collation.sortBy_perm Entry.key authored).map Entry.key
  · intro entry hentry
    have hmem := (Collation.sortBy_perm Entry.key authored).mem_iff.1 hentry
    obtain ⟨⟨key, value⟩, hitem, hbuild⟩ := Result.exists_of_mem_mapM hauthored hmem
    obtain ⟨hkey, table, rfl, hfollows⟩ := follows_of_buildEntry hbuild
    exact ⟨table, hkey ▸ Keyed.get?_of_mem hkeys hitem, hfollows⟩
  · intro others hperm
    obtain ⟨arranged, hothers, harranged⟩ := Result.mapM_perm hauthored hperm
    rw [Collation.sortBy_eq_of_perm hdistinct harranged]
    exact Result.bind_eq_ok.2 ⟨arranged, hothers, rfl⟩

/-- The table of a switch. -/
def switchTable : Value :=
  .table [("type", .string "Bool"), ("description", .string "A switch")]

/-- A hidden group with members under a dotted and an empty key, a setting with an accent in its key,
and one with an empty key. -/
def unusualDocument : Table :=
  [("node", .table [("b.c", switchTable), ("hide", .boolean true), ("", switchTable)]),
    ("été", switchTable), ("", switchTable)]

theorem build_arranged_unusualDocument :
    (Keyed.keys unusualDocument).Nodup
      ∧ ∃ entries, build unusualDocument = .ok entries
        ∧ Ascending Entry.key entries
        ∧ (entries.map Entry.key).Perm ["node", "été", ""]
        ∧ build unusualDocument.reverse = .ok entries := by
  have hkeys : (Keyed.keys unusualDocument).Nodup := by decide
  obtain ⟨entries, hbuild⟩ : ∃ entries, build unusualDocument = .ok entries := ⟨_, rfl⟩
  obtain ⟨hascending, hnames, -, harranged⟩ := build_arranged hkeys hbuild
  exact ⟨hkeys, entries, hbuild, hascending, hnames,
    harranged _ unusualDocument.reverse_perm.symm⟩

end Catalog.Setting
