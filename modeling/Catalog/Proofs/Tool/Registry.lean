import Catalog.Proofs.Collation
import Catalog.Proofs.Loading
import Catalog.Tool.Registry
import Mathlib

/-!
Loading a registry document. Main statement: no entry can make it fail, and the records are those of
the entries one by one, in the order of their names, so neither the order of the entries nor the rest
of the document matters.
-/

namespace Catalog.Tool

open Collation (Ascending)
open Toml (Value)

/-! ### The records of a table of tools -/

/-- The record of an entry. -/
def recordOf (entry : String × Value) : Record :=
  .build entry.1 (.ofValue entry.2)

theorem map_name_recordOf (tools : Toml.Table) :
    (tools.map recordOf).map Record.name = Keyed.keys tools := by
  rw [List.map_map]
  rfl

theorem ofTools_perm (tools : Toml.Table) : (ofTools tools).Perm (tools.map recordOf) :=
  Collation.sortBy_perm Record.name _

theorem ascending_ofTools {tools : Toml.Table} (h : (Keyed.keys tools).Nodup) :
    Ascending Record.name (ofTools tools) := by
  rw [← map_name_recordOf] at h
  exact Collation.ascending_sortBy h

theorem ofTools_eq_of_perm {tools others : Toml.Table} (h : (Keyed.keys tools).Nodup)
    (hperm : tools.Perm others) : ofTools tools = ofTools others := by
  rw [← map_name_recordOf] at h
  exact Collation.sortBy_eq_of_perm h (hperm.map recordOf)

/-! ### Loading a document -/

/-- The names of tools are not looked at: one that marks date-times is a name like any other. -/
theorem loadDocument_of_entries {tree : FileTree} {path : String} {document tools : Toml.Table}
    (hdocument : Loading.plainTable tree path = .ok document)
    (htools : Keyed.get? document "tools" = some (.table tools))
    (hplain : ∀ entry ∈ tools, entry.2.Unmarked) :
    loadDocument tree path = .ok (ofTools tools) := by
  have h : Tool.tools path document = .ok tools := by
    simp only [Tool.tools, htools, Toml.resolve_of_unmarked hplain]
    rfl
  simp [loadDocument, hdocument, h, bind, Except.bind, pure, Except.pure]

theorem loadDocument_of_tools {tree : FileTree} {path : String} {document tools : Toml.Table}
    (hdocument : Loading.plainTable tree path = .ok document)
    (htools : Keyed.get? document "tools" = some (.table tools))
    (hplain : (Value.table tools).Unmarked) :
    loadDocument tree path = .ok (ofTools tools) :=
  loadDocument_of_entries hdocument htools (Value.everyTable_table.1 hplain).2

/-- Loading a document whose tools are a table always succeeds. The records are in strictly ascending
order of their names, one for each key of the table, and each is built from the entry of its name.
Any other document with the same entries in any order gives the same records. -/
theorem loadDocument_permissive {tree : FileTree} {path : String} {document tools : Toml.Table}
    (hdocument : Loading.plainTable tree path = .ok document)
    (htools : Keyed.get? document "tools" = some (.table tools))
    (hplain : (Value.table tools).Unmarked) :
    ∃ records, loadDocument tree path = .ok records
      ∧ Ascending Record.name records
      ∧ (records.map Record.name).Perm (Keyed.keys tools)
      ∧ (∀ name value, Keyed.get? tools name = some value →
          Record.build name (Source.ofValue value) ∈ records)
      ∧ (∀ tree' path' document' tools', Loading.plainTable tree' path' = .ok document' →
          Keyed.get? document' "tools" = some (.table tools') → tools.Perm tools' →
            loadDocument tree' path' = .ok records) := by
  have hdistinct := Value.everyTable_of_get? (Loading.distinct_of_plainTable hdocument) htools
  have hkeys := (Value.everyTable_table.1 hdistinct).1
  refine ⟨ofTools tools, loadDocument_of_tools hdocument htools hplain, ascending_ofTools hkeys,
    ?_, ?_, ?_⟩
  · rw [← map_name_recordOf]
    exact (ofTools_perm tools).map Record.name
  · intro name value hvalue
    have hmem := List.mem_map_of_mem (f := recordOf) (Keyed.mem_of_get? hvalue)
    exact (ofTools_perm tools).mem_iff.2 hmem
  · intro tree' path' document' tools' hdocument' htools' hperm
    rw [ofTools_eq_of_perm hkeys hperm]
    exact loadDocument_of_tools hdocument' htools' (Value.unmarked_of_perm hplain hperm)

/-- Tools of which none can be read as it should: backends that are no array, and no table at all. -/
def malformedTools : Toml.Table :=
  [("Bun", .table [("backends", .string "npm:bun")]), ("act", .array [.integer 7])]

/-- A registry with these tools. -/
def malformedRegistry : FileTree where
  entries := [(["registry.toml"], .file
    "[tools.Bun]\nbackends = \"npm:bun\"\n\n[tools]\nact = [7]\n".toUTF8 false)]
  current := []

theorem loadDocument_malformedRegistry :
    Loading.plainTable malformedRegistry "registry.toml" = .ok [("tools", .table malformedTools)]
      ∧ (Value.table malformedTools).Unmarked
      ∧ ∃ records, loadDocument malformedRegistry "registry.toml" = .ok records
        ∧ Ascending Record.name records ∧ (records.map Record.name).Perm ["Bun", "act"]
        ∧ Record.build "act" (Source.ofValue (.array [.integer 7])) ∈ records := by
  have htext : Loading.text malformedRegistry "registry.toml" = .ok _ :=
    Loading.text_of_file rfl rfl
  have hdocument : Loading.plainTable malformedRegistry "registry.toml"
      = .ok [("tools", .table malformedTools)] :=
    Loading.plainTable_eq_ok htext (by cbv)
  have hplain : (Value.table malformedTools).Unmarked := by
    simp [malformedTools, Value.EveryTable, Value.EveryEntry, Value.EveryItem, Keyed.keys,
      Toml.datetimeKey]
  obtain ⟨records, hload, hascending, hnames, hrecords, -⟩ :=
    loadDocument_permissive hdocument rfl hplain
  exact ⟨hdocument, hplain, records, hload, hascending, hnames, hrecords _ _ rfl⟩

end Catalog.Tool
