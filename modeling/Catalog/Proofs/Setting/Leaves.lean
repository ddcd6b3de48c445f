import Catalog.Proofs.Setting.Earliest

/-!
The single settings of a document with their tables, in the order of the entries: an entry that has a type is
one, and the others have their members. Main statement: where a document is accepted, the settings are built
from these tables one by one.
-/

namespace Catalog.Setting

open Toml (Value Table)

/-- The entries that are tables. -/
def tables (entries : Table) : List (String × Table) :=
  entries.filterMap fun entry => entry.2.table?.map fun table => (entry.1, table)

/-- The single settings under a key of the document, each with its own key. -/
def leavesUnder (key : String) (table : Table) : List (String × Table) :=
  if "type" ∈ Keyed.keys table then [(key, table)]
  else (tables (memberEntries table)).map fun member => (memberKey key member.1, member.2)

/-- The single settings of a document: the keys of the document in order, the members of a group as
authored. -/
def leaves (document : Table) : List (String × Table) :=
  (tables (Collation.sortBy (·.1) document)).flatMap fun entry => leavesUnder entry.1 entry.2

/-- A setting is built from a table. -/
def Built (leaf : String × Table) (element : Element) : Prop :=
  Element.build leaf.1 leaf.2 = .ok element

theorem tables_cons_table (name : String) (table rest : Table) :
    tables ((name, .table table) :: rest) = (name, table) :: tables rest :=
  rfl

/-- Where every entry has to be a table, the results are those of the tables. -/
theorem forall₂_tables {α : Type} (key : String → String) (f : String → Table → Except Fault α) :
    ∀ {entries : Table} {results : List α},
      List.Forall₂ (fun entry result => (expectTable (key entry.1) entry.2 >>= f entry.1) = .ok result)
        entries results →
      List.Forall₂ (fun entry result => f entry.1 entry.2 = .ok result) (tables entries) results
  | [], [], .nil => .nil
  | (name, value) :: rest, result :: results, .cons hfirst hrest => by
    obtain ⟨table, htable, hresult⟩ := Result.bind_eq_ok.1 hfirst
    obtain rfl := eq_of_expectTable htable
    rw [tables_cons_table]
    exact .cons hresult (forall₂_tables key f hrest)

section build

variable {key : String} {table document : Table} {entry : Entry} {entries : List Entry}

theorem built_of_buildGroup {group : Group} (h : Group.build key table = .ok group) :
    List.Forall₂ Built
      ((tables (memberEntries table)).map fun member => (memberKey key member.1, member.2))
      group.settings := by
  simp only [Group.build, Result.bind_eq_ok, Result.pure_eq_ok] at h
  obtain ⟨source, hsource, settings, hsettings, rfl⟩ := h
  rw [mapM_members hsource, Result.mapM_eq_ok] at hsettings
  refine List.forall₂_map_left_iff.2 ?_
  exact forall₂_tables (memberKey key) (fun name => Element.build (memberKey key name)) hsettings

theorem built_of_buildEntry (h : Entry.build key (.table table) = .ok entry) :
    List.Forall₂ Built (leavesUnder key table) entry.elements := by
  rw [Entry.build, expectTable, Value.table?, Result.ok_bind] at h
  rw [leavesUnder]
  split at h
  · rename_i htype
    obtain ⟨element, helement, hentry⟩ := Result.bind_eq_ok.1 h
    cases hentry
    rw [if_pos (Keyed.has_iff.1 htype)]
    exact .cons helement .nil
  · rename_i htype
    obtain ⟨group, hgroup, hentry⟩ := Result.bind_eq_ok.1 h
    cases hentry
    rw [if_neg fun hmem => htype (Keyed.has_iff.2 hmem)]
    exact built_of_buildGroup hgroup

/-- Sorting the document first gives the entries in their order. -/
theorem mapM_sorted (h : build document = .ok entries) :
    (Collation.sortBy (·.1) document).mapM (fun entry => Entry.build entry.1 entry.2) = .ok entries := by
  obtain ⟨authored, hauthored, rfl⟩ := exists_of_build h
  obtain ⟨pairs, rfl, rfl, hall⟩ := Result.exists_pairs_of_mapM hauthored
  have hkeys : ∀ pair ∈ pairs, pair.2.key = pair.1.1 :=
    fun pair hpair => (follows_of_buildEntry (hall pair hpair)).1
  -- an entry has the key of the value it is built from, so both sides arrange the same pairs
  rw [Collation.sortBy_map fun _ _ => rfl, Collation.sortBy_map hkeys]
  refine Result.mapM_map_eq_ok fun pair hpair => hall pair ?_
  exact (Collation.sortBy_perm _ pairs).mem_iff.1 hpair

/-- The settings of a document that is accepted are built from its tables, one by one and in order. -/
theorem built_leaves (h : build document = .ok entries) :
    List.Forall₂ Built (leaves document) (entries.flatMap Entry.elements) := by
  have hentries := Result.mapM_eq_ok.1 (mapM_sorted h)
  -- a value that is no table gives no entry, so the tables are all that counts
  have hbuild : ∀ entry : String × Value, Entry.build entry.1 entry.2
      = expectTable entry.1 entry.2 >>= fun table => Entry.build entry.1 (.table table) := by
    rintro ⟨key, value⟩
    cases value <;> rfl
  simp only [hbuild] at hentries
  have htables := forall₂_tables id (fun key table => Entry.build key (.table table)) hentries
  exact List.rel_flatMap htables fun _ _ hentry => built_of_buildEntry hentry

/-- A document is refused for any single setting in it that cannot be built. -/
theorem refused_of_leaf {leaf : String × Table} (hleaf : leaf ∈ leaves document)
    (h : ¬ ∃ element, Built leaf element) : ∃ fault, build document = .error fault := by
  by_contra hfault
  obtain ⟨entries, hbuild⟩ := Result.exists_ok_iff.2 hfault
  have hall : (leaves document).mapM (fun leaf => Element.build leaf.1 leaf.2) = .ok _ :=
    Result.mapM_eq_ok.2 (built_leaves hbuild)
  exact h (Result.exists_mapM_iff.1 ⟨_, hall⟩ leaf hleaf)

end build

end Catalog.Setting
