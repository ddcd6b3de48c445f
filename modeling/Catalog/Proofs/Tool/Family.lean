import Catalog.Proofs.Keyed
import Catalog.Proofs.Tool.Directory
import Catalog.Proofs.Tool.Registry
import Catalog.Proofs.Tool.Source

/-!
A family of tools can be held by a directory, each in a file of its own, or by one document, each under
its name. Main statement: both load to the same records.
-/

namespace Catalog

namespace Tool

open Toml (Value Table)

/-! ### Reading one tool -/

/-- A document of its own gives the same tool as a table under a name, if the description is no date-time:
a document does not take that for a text. -/
theorem ofDocument_of_unmarked {table : Table} (hplain : (Value.table table).Unmarked)
    (hdescription : ∀ d, Keyed.get? table "description" ≠ some (.datetime d)) :
    Source.ofDocument table = .ok (Source.ofTable table) := by
  have hresolve : Toml.resolve (table.filter (·.1 ∈ fieldNames))
      = .ok (table.filter (·.1 ∈ fieldNames)) :=
    Toml.resolve_of_unmarked fun entry hentry =>
      (Value.everyTable_table.1 hplain).2 entry (List.mem_filter.1 hentry).1
  have hget : ∀ key ∈ fieldNames, Keyed.get? (table.filter (·.1 ∈ fieldNames)) key
      = Keyed.get? table key := fun key hkey =>
    Keyed.get?_filter (p := fun key => decide (key ∈ fieldNames)) (by simpa using hkey) table
  have htext : (Keyed.get? table "description").bind Value.string?
      = (Keyed.get? table "description").bind Value.text? := by
    cases hvalue : Keyed.get? table "description" with
    | none => rfl
    | some value =>
      cases value with
      | datetime d => exact absurd hvalue (hdescription d)
      | string | integer | float | boolean | array | table => rfl
  rw [Source.ofTable_of_unmarked hplain, ← htext, Source.ofDocument, hresolve]
  simp only [Result.ok_bind]
  rw [hget "aliases" (by decide), hget "backends" (by decide), hget "os" (by decide),
    hget "description" (by decide)]
  rfl

/-! ### Holding a family -/

/-- A directory holds a family of tools: there is a file for each of them with its table, and no other file
for a tool. -/
structure HeldByDirectory (tree : FileTree) (path : String) (family : List (String × Table)) :
    Prop where
  isDirectory : tree.isDirectory path = true
  file : ∀ tool ∈ family, ∃ content text, HasToolFile tree path (fileName tool.1) content
    ∧ Text.ofUtf8? content = some text ∧ Toml.parsePlain text = .ok tool.2
  noOther : ∀ name content, HasToolFile tree path name content → ∃ tool ∈ family, name = fileName tool.1

/-- A document holds a family of tools: its table of tools has the table of each under its name, in any
order, and nothing else. -/
def HeldByDocument (tree : FileTree) (path : String) (family : List (String × Table)) : Prop :=
  ∃ document tools, Loading.plainTable tree path = .ok document
    ∧ Keyed.get? document "tools" = some (.table tools)
    ∧ tools.Perm (family.map fun tool => (tool.1, .table tool.2))

/-- The record of a tool in a family. -/
def familyRecord (tool : String × Table) : Record :=
  .build tool.1 (.ofTable tool.2)

variable {tree : FileTree} {path : String} {family : List (String × Table)}

theorem name_familyRecord (family : List (String × Table)) :
    (family.map familyRecord).map Record.name = Keyed.keys family := by
  rw [List.map_map]
  rfl

theorem fileName_injective : Function.Injective fileName := by
  intro tool other h
  have hlist := congrArg String.toList h
  rw [fileName, fileName, String.toList_append, String.toList_append] at hlist
  exact String.toList_inj.1 (List.append_cancel_right hlist)

theorem HeldByDirectory.loadTool (h : HeldByDirectory tree path family) {tool : String × Table}
    (htool : tool ∈ family) (hplain : (Value.table tool.2).Unmarked)
    (hdescription : ∀ d, Keyed.get? tool.2 "description" ≠ some (.datetime d)) :
    loadTool tree path (fileName tool.1) = .ok (familyRecord tool) := by
  obtain ⟨content, text, hfile, htext, hparse⟩ := h.file tool htool
  have hsource := ofDocument_of_unmarked hplain hdescription
  rw [loadTool_of_hasFile hfile.2, ofContent_of_gives _ ⟨text, tool.2, htext, hparse, hsource⟩,
    stem_fileName (extension?_fileName.1 hfile.1)]
  rfl

theorem loadDirectory_of_family (hnames : (Keyed.keys family).Nodup)
    (hplain : ∀ tool ∈ family, (Value.table tool.2).Unmarked)
    (hdescription : ∀ tool ∈ family, ∀ d, Keyed.get? tool.2 "description" ≠ some (.datetime d))
    (h : HeldByDirectory tree path family) :
    loadDirectory tree path = .ok (sorted (family.map familyRecord)) := by
  obtain ⟨names, hascending, hmem, heq⟩ := exists_loadDirectory_eq h.isDirectory
  have hfiles : (family.map fun tool => fileName tool.1).Nodup := by
    have hnodup := List.Nodup.map fileName_injective hnames
    rw [Keyed.keys, List.map_map] at hnodup
    exact hnodup
  have hperm : (family.map fun tool => fileName tool.1).Perm names := by
    refine (List.perm_ext_iff_of_nodup hfiles hascending.nodup).2 fun name => ?_
    rw [hmem, List.mem_map]
    constructor
    · rintro ⟨tool, htool, rfl⟩
      obtain ⟨content, -, hfile, -⟩ := h.file tool htool
      exact ⟨content, hfile⟩
    · rintro ⟨content, hfile⟩
      obtain ⟨tool, htool, rfl⟩ := h.noOther name content hfile
      exact ⟨tool, htool, rfl⟩
  have hloaded : (family.map fun tool => fileName tool.1).mapM (Tool.loadTool tree path)
      = .ok (family.map familyRecord) :=
    Result.mapM_map_eq_ok fun tool htool =>
      h.loadTool htool (hplain tool htool) (hdescription tool htool)
  obtain ⟨arranged, harranged, hrecords⟩ := Result.mapM_perm hloaded hperm
  have hdistinct : ((family.map familyRecord).map Record.name).Nodup := by
    rw [name_familyRecord]
    exact hnames
  rw [heq, harranged, sorted, Collation.sortBy_eq_of_perm hdistinct hrecords]
  rfl

theorem loadDocument_of_family (hnames : (Keyed.keys family).Nodup)
    (hplain : ∀ tool ∈ family, (Value.table tool.2).Unmarked) (h : HeldByDocument tree path family) :
    loadDocument tree path = .ok (sorted (family.map familyRecord)) := by
  obtain ⟨document, tools, hdocument, htools, hperm⟩ := h
  have hall : ∀ entry ∈ tools, entry.2.Unmarked := by
    intro entry hentry
    obtain ⟨tool, htool, rfl⟩ := List.mem_map.1 (hperm.mem_iff.1 hentry)
    exact hplain tool htool
  have hkeys : Keyed.keys (family.map fun tool => (tool.1, Value.table tool.2)) = Keyed.keys family := by
    rw [Keyed.keys, List.map_map]
    rfl
  have hdistinct : (Keyed.keys (family.map fun tool => (tool.1, Value.table tool.2))).Nodup :=
    hkeys ▸ hnames
  rw [loadDocument_of_entries hdocument htools hall, ← ofTools_eq_of_perm hdistinct hperm.symm,
    ofTools, List.map_map]
  rfl

/-- A path that holds a document leads to no directory. -/
theorem isDirectory_of_plainTable {document : Table}
    (h : Loading.plainTable tree path = .ok document) : tree.isDirectory path = false := by
  obtain ⟨text, htext, -⟩ := Loading.exists_of_plainTable h
  rw [Loading.text_eq] at htext
  rw [FileTree.isDirectory]
  cases hfound : tree.find? path with
  | none => rfl
  | some entry =>
    cases entry with
    | file => rfl
    | directory =>
      rw [hfound] at htext
      cases htext

/-- A family of tools with distinct names loads to the same records, those of its tools in the order of
their names, from a directory with a file for each tool as from one document with a table for each, if
the mark of date-times stands nowhere in their tables and no description is a date-time. -/
theorem directory_loads_as_document {other : FileTree} {file : String}
    (hnames : (Keyed.keys family).Nodup)
    (hplain : ∀ tool ∈ family, (Value.table tool.2).Unmarked)
    (hdescription : ∀ tool ∈ family, ∀ d, Keyed.get? tool.2 "description" ≠ some (.datetime d))
    (hdirectory : HeldByDirectory tree path family) (hdocument : HeldByDocument other file family) :
    load tree path = .ok (sorted (family.map familyRecord))
      ∧ load other file = .ok (sorted (family.map familyRecord)) := by
  constructor
  · rw [load, if_pos hdirectory.isDirectory]
    exact loadDirectory_of_family hnames hplain hdescription hdirectory
  · have hload := loadDocument_of_family hnames hplain hdocument
    obtain ⟨document, -, htable, -⟩ := hdocument
    rw [load, isDirectory_of_plainTable htable, hload]
    rfl

/-- Two tools with odd names: one with a dot, and the mark of date-times. Each has fields of the wrong
type. -/
def oddFamily : List (String × Table) :=
  [("a.b", [("os", .integer 3), ("aliases", .array [.string "ab", .integer 1])]),
    (Toml.datetimeKey, [("description", .string "Marks"), ("backends", .boolean true)])]

/-- A directory with a file for each, and one more directory in it. -/
def oddDirectory : FileTree where
  entries :=
    [(["registry"], .directory),
      (["registry", "$__toml_private_datetime.toml"],
        .file "description = \"Marks\"\nbackends = true\n".toUTF8 false),
      (["registry", "a.b.toml"], .file "os = 3\naliases = [\"ab\", 1]\n".toUTF8 false),
      (["registry", "nested.toml"], .directory)]
  current := []

/-- A document with a table for each. -/
def oddDocument : FileTree where
  entries := [(["registry.toml"], .file
    ("[tools.\"$__toml_private_datetime\"]\ndescription = \"Marks\"\nbackends = true\n"
      ++ "[tools.\"a.b\"]\nos = 3\naliases = [\"ab\", 1]\n").toUTF8 false)]
  current := []

theorem heldByDirectory_oddFamily : HeldByDirectory oddDirectory "registry" oddFamily := by
  have hlocate : oddDirectory.locate "registry" = .ok ["registry"] := rfl
  have hnames : oddDirectory.children ["registry"]
      = ["$__toml_private_datetime.toml", "a.b.toml", "nested.toml"] := rfl
  have hmark : oddDirectory.find? (Path.join "registry" "$__toml_private_datetime.toml")
      = some (.file "description = \"Marks\"\nbackends = true\n".toUTF8 false) := rfl
  have hdotted : oddDirectory.find? (Path.join "registry" "a.b.toml")
      = some (.file "os = 3\naliases = [\"ab\", 1]\n".toUTF8 false) := rfl
  have hnested : oddDirectory.find? (Path.join "registry" "nested.toml") = some .directory := rfl
  refine ⟨rfl, fun tool htool => ?_, ?_⟩
  · simp only [oddFamily, List.mem_cons, List.not_mem_nil, or_false] at htool
    rcases htool with rfl | rfl
    · exact ⟨_, _, ⟨by decide, ⟨_, hlocate, by rw [hnames]; decide⟩, false, hdotted⟩,
        Text.ofUtf8?_toUTF8 _, by cbv⟩
    · exact ⟨_, _, ⟨by decide, ⟨_, hlocate, by rw [hnames]; decide⟩, false, hmark⟩,
        Text.ofUtf8?_toUTF8 _, by cbv⟩
  · rintro name content ⟨hextension, ⟨location, hplace, hname⟩, executable, hfile⟩
    rw [hlocate] at hplace
    cases hplace
    rw [hnames] at hname
    simp only [List.mem_cons, List.not_mem_nil, or_false] at hname
    rcases hname with rfl | rfl | rfl
    · exact ⟨_, List.mem_cons_of_mem _ List.mem_cons_self, by decide⟩
    · exact ⟨_, List.mem_cons_self, by decide⟩
    · rw [hnested] at hfile
      cases hfile

theorem heldByDocument_oddFamily : HeldByDocument oddDocument "registry.toml" oddFamily :=
  ⟨_, _, Loading.plainTable_eq_ok (Loading.text_of_file rfl rfl) (by cbv), rfl, .swap _ _ _⟩

theorem directory_loads_as_document_oddFamily :
    (Keyed.keys oddFamily).Nodup
      ∧ (∀ tool ∈ oddFamily, (Value.table tool.2).Unmarked)
      ∧ (∀ tool ∈ oddFamily, ∀ d, Keyed.get? tool.2 "description" ≠ some (.datetime d))
      ∧ HeldByDirectory oddDirectory "registry" oddFamily
      ∧ HeldByDocument oddDocument "registry.toml" oddFamily
      ∧ load oddDirectory "registry" = .ok (sorted (oddFamily.map familyRecord))
      ∧ load oddDocument "registry.toml" = .ok (sorted (oddFamily.map familyRecord)) := by
  have hnames : (Keyed.keys oddFamily).Nodup := by decide
  have hplain : ∀ tool ∈ oddFamily, (Value.table tool.2).Unmarked := by
    simp [oddFamily, Value.EveryTable, Value.EveryEntry, Value.EveryItem, Keyed.keys,
      Toml.datetimeKey]
  have hdescription : ∀ tool ∈ oddFamily, ∀ d,
      Keyed.get? tool.2 "description" ≠ some (.datetime d) := by
    simp [oddFamily, Keyed.get?]
  exact ⟨hnames, hplain, hdescription, heldByDirectory_oddFamily, heldByDocument_oddFamily,
    directory_loads_as_document hnames hplain hdescription heldByDirectory_oddFamily
      heldByDocument_oddFamily⟩

end Tool

end Catalog
