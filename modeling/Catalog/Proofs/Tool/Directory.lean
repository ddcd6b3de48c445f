import Catalog.Proofs.Collation
import Catalog.Proofs.FileTree.Listing
import Catalog.Proofs.Loading
import Catalog.Tool.Registry

/-!
Loading a directory of tools. Main statement: the result is decided by the files of tools directly in the
directory and their contents. It is a record for each of them in the order of the names, if all can be
read, and else the fault of the first one that cannot.
-/

namespace Catalog

namespace Toml

theorem isSome_resolvedEntries?_iff {entries : Table} :
    (Value.resolvedEntries? entries).isSome ↔ ∀ entry ∈ entries, entry.2.resolved?.isSome := by
  induction entries with
  | nil => simp [Value.resolvedEntries?]
  | cons entry rest ih =>
    rw [List.forall_mem_cons, ← ih, Value.resolvedEntries?]
    cases entry.2.resolved? <;> cases Value.resolvedEntries? rest <;> simp

end Toml

namespace Tool

open Collation (Ascending)

/-! ### One file -/

/-- The name of the file of a tool. -/
def fileName (tool : String) : String :=
  tool ++ ".toml"

theorem extension?_fileName_empty : Path.extension? (fileName "") = none := by
  decide

theorem splitExtension_fileName {tool : String} (h : tool ≠ "") :
    Path.splitExtension (fileName tool) = (tool, some "toml") := by
  have hname : fileName tool = tool ++ "." ++ "toml" := by
    rw [String.append_assoc]
    rfl
  rw [hname, Path.splitExtension_append h (by decide)]

/-- Only a tool without a name has no file. -/
theorem extension?_fileName {tool : String} : Path.extension? (fileName tool) = some "toml" ↔ tool ≠ "" := by
  constructor
  · rintro h rfl
    rw [extension?_fileName_empty] at h
    cases h
  · intro h
    rw [Path.extension?, splitExtension_fileName h]

theorem stem_fileName {tool : String} (h : tool ≠ "") : Path.stem (fileName tool) = tool := by
  rw [Path.stem, splitExtension_fileName h]

theorem eq_fileName_of_extension? {name : String} (h : Path.extension? name = some "toml") :
    name = fileName (Path.stem name) := by
  have hname := Path.eq_append_of_extension? h
  rw [String.append_assoc] at hname
  exact hname

/-- A file directly in a directory that is there for a tool. -/
def HasToolFile (tree : FileTree) (directory name : String) (content : ByteArray) : Prop :=
  Path.extension? name = some "toml" ∧ tree.HasFile directory name content

/-- The content of a file that gives a tool: UTF-8 and TOML, and what is marked as a date-time under a
field of tools is one. -/
def Readable (content : ByteArray) : Prop :=
  ∃ text document, Text.ofUtf8? content = some text ∧ Toml.parsePlain text = .ok document
    ∧ ∀ entry ∈ document, entry.1 ∈ fieldNames → entry.2.resolved?.isSome

/-- The fault of a file whose content does not give a tool. -/
inductive Refused (path : String) (content : ByteArray) : LoadFault → Prop
  | notUtf8 : Text.ofUtf8? content = none → Refused path content (.unreadable path .notUtf8)
  | notToml {text : String} {fault : Toml.Fault} : Text.ofUtf8? content = some text →
      Toml.parsePlain text = .error fault → Refused path content (.invalidToml path fault)
  | notADatetime {text : String} {document : Toml.Table} : Text.ofUtf8? content = some text →
      Toml.parsePlain text = .ok document →
      (∃ entry ∈ document, entry.1 ∈ fieldNames ∧ entry.2.resolved? = none) →
      Refused path content (.invalidToml path .notADatetime)

/-- The tool that the content of a file gives. -/
def Gives (content : ByteArray) (source : Source) : Prop :=
  ∃ text document, Text.ofUtf8? content = some text ∧ Toml.parsePlain text = .ok document
    ∧ Source.ofDocument document = .ok source

/-- Reads a tool from the content of the file at a path. -/
def Source.ofContent (path : String) (content : ByteArray) : Except LoadFault Source :=
  match Text.ofUtf8? content with
  | none => .error (.unreadable path .notUtf8)
  | some text => do
    let document ← (Toml.parsePlain text).mapError (.invalidToml path)
    (Source.ofDocument document).mapError (.invalidToml path)

variable {tree : FileTree} {directory name path : String} {content : ByteArray}

theorem isSome_resolvedFields_iff {document : Toml.Table} :
    (Toml.Value.resolvedEntries? (document.filter (·.1 ∈ fieldNames))).isSome
      ↔ ∀ entry ∈ document, entry.1 ∈ fieldNames → entry.2.resolved?.isSome := by
  simp [Toml.isSome_resolvedEntries?_iff, List.mem_filter]

theorem exists_ofDocument {document : Toml.Table}
    (h : ∀ entry ∈ document, entry.1 ∈ fieldNames → entry.2.resolved?.isSome) :
    ∃ source, Source.ofDocument document = .ok source := by
  obtain ⟨fields, hfields⟩ := Option.isSome_iff_exists.1 (isSome_resolvedFields_iff.2 h)
  rw [Source.ofDocument, Toml.resolve, hfields]
  exact ⟨_, rfl⟩

theorem ofDocument_eq_error {document : Toml.Table} {entry : String × Toml.Value}
    (hentry : entry ∈ document) (hname : entry.1 ∈ fieldNames) (hmark : entry.2.resolved? = none) :
    Source.ofDocument document = .error .notADatetime := by
  have hfields : Toml.Value.resolvedEntries? (document.filter (·.1 ∈ fieldNames)) = none := by
    rw [← Option.not_isSome_iff_eq_none, isSome_resolvedFields_iff]
    intro h
    have hsome := h entry hentry hname
    rw [hmark] at hsome
    cases hsome
  rw [Source.ofDocument, Toml.resolve, hfields]
  rfl

theorem ofContent_of_gives {source : Source} (path : String) (h : Gives content source) :
    Source.ofContent path content = .ok source := by
  obtain ⟨text, document, htext, hdocument, hsource⟩ := h
  rw [Source.ofContent, htext]
  simp only [hdocument, hsource, Except.mapError, Result.ok_bind]

theorem ofContent_of_refused {fault : LoadFault} (h : Refused path content fault) :
    Source.ofContent path content = .error fault := by
  rw [Source.ofContent]
  cases h with
  | notUtf8 htext => rw [htext]
  | notToml htext hparse =>
    rw [htext]
    simp only [hparse, Except.mapError, Result.error_bind]
  | notADatetime htext hdocument hmark =>
    obtain ⟨entry, hentry, hname, hmark⟩ := hmark
    rw [htext]
    simp only [hdocument, ofDocument_eq_error hentry hname hmark, Except.mapError, Result.ok_bind]

theorem Readable.exists_gives (h : Readable content) : ∃ source, Gives content source := by
  obtain ⟨text, document, htext, hdocument, hfields⟩ := h
  obtain ⟨source, hsource⟩ := exists_ofDocument hfields
  exact ⟨source, text, document, htext, hdocument, hsource⟩

/-- A content that gives no tool has a fault. -/
theorem readable_or_refused (path : String) (content : ByteArray) :
    Readable content ∨ ∃ fault, Refused path content fault := by
  cases htext : Text.ofUtf8? content with
  | none => exact .inr ⟨_, .notUtf8 htext⟩
  | some text =>
    cases hparse : Toml.parsePlain text with
    | error fault => exact .inr ⟨_, .notToml htext hparse⟩
    | ok document =>
      by_cases hfields : ∀ entry ∈ document, entry.1 ∈ fieldNames → entry.2.resolved?.isSome
      · exact .inl ⟨text, document, htext, hparse, hfields⟩
      · simp only [not_forall, Option.not_isSome_iff_eq_none] at hfields
        obtain ⟨entry, hentry, hname, hmark⟩ := hfields
        exact .inr ⟨_, .notADatetime htext hparse ⟨entry, hentry, hname, hmark⟩⟩

theorem readable_iff (path : String) :
    Readable content ↔ ∃ source, Source.ofContent path content = .ok source := by
  constructor
  · intro h
    obtain ⟨source, hsource⟩ := h.exists_gives
    exact ⟨source, ofContent_of_gives path hsource⟩
  · rintro ⟨source, hsource⟩
    rcases readable_or_refused path content with h | ⟨fault, hfault⟩
    · exact h
    · rw [ofContent_of_refused hfault] at hsource
      cases hsource

theorem ofContent_eq_ok {source : Source} :
    Source.ofContent path content = .ok source ↔ Gives content source := by
  refine ⟨fun h => ?_, ofContent_of_gives path⟩
  obtain ⟨found, hfound⟩ := ((readable_iff path).2 ⟨source, h⟩).exists_gives
  rw [ofContent_of_gives path hfound] at h
  cases h
  exact hfound

theorem ofContent_eq_error {fault : LoadFault} :
    Source.ofContent path content = .error fault ↔ Refused path content fault := by
  refine ⟨fun h => ?_, ofContent_of_refused⟩
  rcases readable_or_refused path content with hreadable | ⟨found, hfound⟩
  · obtain ⟨source, hsource⟩ := (readable_iff path).1 hreadable
    rw [hsource] at h
    cases h
  · rw [ofContent_of_refused hfound] at h
    cases h
    exact hfound

/-- A file in a directory is loaded from its content. -/
theorem loadTool_of_hasFile (h : tree.HasFile directory name content) :
    loadTool tree directory name
      = (Source.ofContent (Path.join directory name) content).map (.build (Path.stem name)) := by
  obtain ⟨-, executable, hfile⟩ := h
  have htext := Loading.text_eq tree (Path.join directory name)
  rw [hfile] at htext
  cases hutf8 : Text.ofUtf8? content with
  | none =>
    simp only [hutf8] at htext
    rw [loadTool, Loading.plainTable, htext, Source.ofContent, hutf8]
    rfl
  | some text =>
    simp only [hutf8] at htext
    rw [loadTool, Loading.plainTable, htext, Source.ofContent, hutf8]
    cases hparse : Toml.parsePlain text with
    | error fault => simp only [hparse, Result.ok_bind, Except.mapError, Result.error_bind, Except.map]
    | ok document =>
      simp only [hparse, Result.ok_bind, Except.mapError]
      cases Source.ofDocument document <;> rfl

/-! ### The whole directory -/

/-- A directory is loaded file by file, in the order of the names of its files. -/
theorem exists_loadDirectory_eq (h : tree.isDirectory path = true) :
    ∃ names, Sorted.Ascending id names
      ∧ (∀ name, name ∈ names ↔ ∃ content, HasToolFile tree path name content)
      ∧ loadDirectory tree path = (names.mapM (loadTool tree path)).map sorted := by
  obtain ⟨names, hnames, hascending, hmem⟩ := FileTree.exists_filesWith h "toml"
  refine ⟨names, hascending, fun name => ?_, ?_⟩
  · rw [hmem]
    exact exists_and_left.symm
  · rw [loadDirectory, hnames]
    cases hrecords : names.mapM (loadTool tree path) <;> simp [Except.mapError, hrecords] <;> rfl

theorem exists_loadDirectory_iff (h : tree.isDirectory path = true) :
    (∃ records, loadDirectory tree path = .ok records)
      ↔ ∀ name content, HasToolFile tree path name content → Readable content := by
  obtain ⟨names, -, hmem, hload⟩ := exists_loadDirectory_eq h
  have hfiles : (∃ records, loadDirectory tree path = .ok records)
      ↔ ∀ name ∈ names, ∃ record, loadTool tree path name = .ok record := by
    rw [← Result.exists_mapM_iff, hload]
    simp [Result.map_eq_ok]
  rw [hfiles]
  constructor
  · intro hall name content hfile
    obtain ⟨record, hrecord⟩ := hall name ((hmem name).2 ⟨content, hfile⟩)
    rw [loadTool_of_hasFile hfile.2] at hrecord
    obtain ⟨source, hsource, -⟩ := Result.map_eq_ok.1 hrecord
    exact (readable_iff _).2 ⟨source, hsource⟩
  · intro hall name hname
    obtain ⟨content, hfile⟩ := (hmem name).1 hname
    obtain ⟨source, hsource⟩ := (readable_iff (Path.join path name)).1 (hall name content hfile)
    exact ⟨_, by rw [loadTool_of_hasFile hfile.2, hsource]; rfl⟩

/-- Files with different names are those of different tools. -/
theorem nodup_stems {names : List String} (hnodup : names.Nodup)
    (htoml : ∀ name ∈ names, Path.extension? name = some "toml") : (names.map Path.stem).Nodup := by
  refine List.Nodup.map_on ?_ hnodup
  intro name hname differing hdiffering hstem
  rw [eq_fileName_of_extension? (htoml name hname), hstem,
    ← eq_fileName_of_extension? (htoml differing hdiffering)]

theorem name_of_loadTool {record : Record} (h : loadTool tree directory name = .ok record) :
    record.name = Path.stem name := by
  simp only [loadTool, Result.bind_eq_ok, Result.pure_eq_ok] at h
  obtain ⟨_, -, _, -, rfl⟩ := h
  rfl

/-- The records are those of the files, one for each name of a tool. -/
theorem records_of_loadDirectory {records : List Record} (h : tree.isDirectory path = true)
    (hload : loadDirectory tree path = .ok records) :
    Ascending Record.name records
      ∧ ∀ record, record ∈ records ↔ ∃ tool content source,
          HasToolFile tree path (fileName tool) content ∧ Gives content source
            ∧ record = .build tool source := by
  obtain ⟨names, hascending, hmem, heq⟩ := exists_loadDirectory_eq h
  rw [heq] at hload
  obtain ⟨loaded, hloaded, rfl⟩ := Result.map_eq_ok.1 hload
  have htoml : ∀ name ∈ names, Path.extension? name = some "toml" := fun name hname => by
    obtain ⟨content, hfile⟩ := (hmem name).1 hname
    exact hfile.1
  have hstems : loaded.map Record.name = names.map Path.stem :=
    Result.map_eq_of_mapM (fun _ _ => name_of_loadTool) hloaded
  refine ⟨Collation.ascending_sortBy (hstems ▸ nodup_stems hascending.nodup htoml), fun record => ?_⟩
  rw [sorted, (Collation.sortBy_perm Record.name loaded).mem_iff]
  constructor
  · intro hrecord
    obtain ⟨name, hname, hrecord⟩ := Result.exists_of_mem_mapM hloaded hrecord
    obtain ⟨content, hfile⟩ := (hmem name).1 hname
    rw [loadTool_of_hasFile hfile.2] at hrecord
    obtain ⟨source, hsource, rfl⟩ := Result.map_eq_ok.1 hrecord
    refine ⟨Path.stem name, content, source, ?_, ofContent_eq_ok.1 hsource, rfl⟩
    rw [← eq_fileName_of_extension? hfile.1]
    exact hfile
  · rintro ⟨tool, content, source, hfile, hsource, rfl⟩
    obtain ⟨pairs, hitems, hresults, hall⟩ := Result.exists_pairs_of_mapM hloaded
    have hname := (hmem (fileName tool)).2 ⟨content, hfile⟩
    rw [← hitems] at hname
    obtain ⟨⟨name, record⟩, hpair, rfl⟩ := List.mem_map.1 hname
    have hrecord := hall _ hpair
    rw [loadTool_of_hasFile hfile.2, ofContent_of_gives _ hsource] at hrecord
    cases hrecord
    rw [← hresults, ← stem_fileName (extension?_fileName.1 hfile.1)]
    exact List.mem_map_of_mem hpair

theorem loadTool_eq_error {fault : LoadFault} (h : HasToolFile tree directory name content) :
    loadTool tree directory name = .error fault
      ↔ Refused (Path.join directory name) content fault := by
  rw [loadTool_of_hasFile h.2, ← ofContent_eq_error]
  cases Source.ofContent (Path.join directory name) content <;> simp [Except.map]

theorem exists_loadTool_iff (h : HasToolFile tree directory name content) :
    (∃ record, loadTool tree directory name = .ok record) ↔ Readable content := by
  rw [loadTool_of_hasFile h.2, readable_iff (Path.join directory name)]
  simp [Result.map_eq_ok]

/-- The fault is that of the first file that gives no tool. -/
theorem loadDirectory_eq_error {fault : LoadFault} (h : tree.isDirectory path = true) :
    loadDirectory tree path = .error fault
      ↔ ∃ name content, HasToolFile tree path name content
        ∧ Refused (Path.join path name) content fault
        ∧ ∀ earlier content', HasToolFile tree path earlier content' → earlier < name →
          Readable content' := by
  obtain ⟨names, hascending, hmem, heq⟩ := exists_loadDirectory_eq h
  have hfirst : loadDirectory tree path = .error fault
      ↔ names.mapM (loadTool tree path) = .error fault := by
    rw [heq]
    cases names.mapM (loadTool tree path) <;> simp [Except.map]
  rw [hfirst, Result.mapM_eq_error]
  constructor
  · rintro ⟨before, name, after, rfl, hname, hbefore⟩
    obtain ⟨content, hfile⟩ := (hmem name).1 (by simp)
    refine ⟨name, content, hfile, (loadTool_eq_error hfile).1 hname, ?_⟩
    intro earlier content' hearlier hlt
    rw [← exists_loadTool_iff hearlier]
    refine hbefore earlier ?_
    -- What stands behind the first failing file has a greater name.
    have hmember := (hmem earlier).2 ⟨content', hearlier⟩
    obtain ⟨-, htail, -⟩ := List.pairwise_append.1 hascending
    obtain ⟨hafter, -⟩ := List.pairwise_cons.1 htail
    rcases List.mem_append.1 hmember with hmember | hmember
    · exact hmember
    · rcases List.mem_cons.1 hmember with rfl | hmember
      · exact absurd hlt Std.lt_irrefl
      · exact absurd (Std.lt_trans hlt (hafter earlier hmember)) Std.lt_irrefl
  · rintro ⟨name, content, hfile, hrefused, hearlier⟩
    obtain ⟨before, after, rfl⟩ := List.append_of_mem ((hmem name).2 ⟨content, hfile⟩)
    refine ⟨before, name, after, rfl, (loadTool_eq_error hfile).2 hrefused, ?_⟩
    intro earlier hmember
    obtain ⟨-, -, hbelow⟩ := List.pairwise_append.1 hascending
    obtain ⟨content', hfile'⟩ := (hmem earlier).1 (List.mem_append_left _ hmember)
    rw [exists_loadTool_iff hfile']
    exact hearlier earlier content' hfile' (hbelow earlier hmember name List.mem_cons_self)

/-- Directories with the same files of tools load alike. -/
theorem loadDirectory_congr {other : FileTree} (h : tree.isDirectory path = true)
    (hother : other.isDirectory path = true)
    (hfiles : ∀ name content, HasToolFile other path name content ↔ HasToolFile tree path name content) :
    loadDirectory other path = loadDirectory tree path := by
  obtain ⟨names, hascending, hmem, heq⟩ := exists_loadDirectory_eq h
  obtain ⟨others, hothers, hmem', heq'⟩ := exists_loadDirectory_eq hother
  have hnames : others = names := by
    refine hothers.ext hascending fun name => ?_
    rw [hmem', hmem]
    exact exists_congr fun content => hfiles name content
  have htools : ∀ name ∈ names, loadTool other path name = loadTool tree path name := by
    intro name hname
    obtain ⟨content, hfile⟩ := (hmem name).1 hname
    rw [loadTool_of_hasFile hfile.2, loadTool_of_hasFile ((hfiles name content).2 hfile).2]
  rw [heq, heq', hnames, Result.mapM_congr htools]

theorem loadDirectory_of_perm {entries : List (Location × FileEntry)} (h : tree.isDirectory path = true)
    (hkeys : (Keyed.keys tree.entries).Nodup) (hperm : tree.entries.Perm entries) :
    loadDirectory { tree with entries } path = loadDirectory tree path := by
  refine loadDirectory_congr h ?_ fun name content => ?_
  · rw [FileTree.isDirectory, FileTree.find?_congr (FileTree.at?_of_perm hkeys hperm) rfl]
    exact h
  · rw [HasToolFile, HasToolFile, FileTree.hasFile_of_perm hkeys hperm]

/-- A directory of tools loads if and only if each of its files with the extension is UTF-8 and TOML, with
nothing marked as a date-time under a field of tools that is none. The records then stand in strictly
ascending order of their names, one for each file, named by its stem and built from its content alone.
Otherwise the fault is that of the first file in ascending order that cannot be read. No other entry of
the tree matters, and neither does the order in which the entries are held. -/
theorem loadDirectory_by_files (h : tree.isDirectory path = true) :
    ((∃ records, loadDirectory tree path = .ok records)
        ↔ ∀ name content, HasToolFile tree path name content → Readable content)
      ∧ (∀ records, loadDirectory tree path = .ok records →
          Ascending Record.name records
          ∧ ∀ record, record ∈ records ↔ ∃ tool content source,
            HasToolFile tree path (fileName tool) content ∧ Gives content source
              ∧ record = .build tool source)
      ∧ (∀ fault, loadDirectory tree path = .error fault
          ↔ ∃ name content, HasToolFile tree path name content
            ∧ Refused (Path.join path name) content fault
            ∧ ∀ earlier content', HasToolFile tree path earlier content' → earlier < name →
              Readable content')
      ∧ (∀ other : FileTree, other.isDirectory path = true →
          (∀ name content,
            HasToolFile other path name content ↔ HasToolFile tree path name content) →
          loadDirectory other path = loadDirectory tree path)
      ∧ ((Keyed.keys tree.entries).Nodup → ∀ entries, tree.entries.Perm entries →
          loadDirectory { tree with entries } path = loadDirectory tree path) := by
  refine ⟨exists_loadDirectory_iff h, fun records => records_of_loadDirectory h,
    fun fault => loadDirectory_eq_error h, fun other => loadDirectory_congr h, ?_⟩
  intro hkeys entries hperm
  exact loadDirectory_of_perm h hkeys hperm

/-- A directory with a file for a tool, and three entries that are none: a file with an extension as its
whole name, a file with another extension, and a directory. -/
def mixedDirectory (text : String) : FileTree where
  entries :=
    [(["registry"], .directory), (["registry", ".toml"], .file "[".toUTF8 false),
      (["registry", "zig.toml"], .file text.toUTF8 false),
      (["registry", "nested.toml"], .directory), (["registry", "notes.md"], .file "[".toUTF8 false)]
  current := []

theorem hasToolFile_mixedDirectory {text : String} :
    HasToolFile (mixedDirectory text) "registry" name content
      ↔ name = "zig.toml" ∧ content = text.toUTF8 := by
  have hlocate : (mixedDirectory text).locate "registry" = .ok ["registry"] := rfl
  have hnames : (mixedDirectory text).children ["registry"]
      = [".toml", "zig.toml", "nested.toml", "notes.md"] := rfl
  have hzig : (mixedDirectory text).find? (Path.join "registry" "zig.toml")
      = some (.file text.toUTF8 false) := rfl
  have hnested : (mixedDirectory text).find? (Path.join "registry" "nested.toml")
      = some .directory := rfl
  constructor
  · rintro ⟨hextension, ⟨location, hplace, hname⟩, executable, hfile⟩
    rw [hlocate] at hplace
    cases hplace
    rw [hnames] at hname
    simp only [List.mem_cons, List.not_mem_nil, or_false] at hname
    rcases hname with rfl | rfl | rfl | rfl
    · exact absurd hextension (by decide)
    · rw [hzig] at hfile
      cases hfile
      exact ⟨rfl, rfl⟩
    · rw [hnested] at hfile
      cases hfile
    · exact absurd hextension (by decide)
  · rintro ⟨rfl, rfl⟩
    exact ⟨by decide, ⟨["registry"], hlocate, by rw [hnames]; decide⟩, false, hzig⟩

/-- A document with a field of the wrong type, and under a field that no tool has a table that is marked as
a date-time without being one. -/
def oddText : String :=
  "os = 3\n[extra]\n\"$__toml_private_datetime\" = \"x\"\n"

theorem gives_oddText : Gives oddText.toUTF8 {} :=
  ⟨oddText, [("os", .integer 3), ("extra", .table [(Toml.datetimeKey, .string "x")])],
    Text.ofUtf8?_toUTF8 _, by cbv, rfl⟩

theorem loadDirectory_by_files_mixedDirectory :
    let tree := mixedDirectory oddText
    tree.isDirectory "registry" = true
      ∧ (Keyed.keys tree.entries).Nodup
      ∧ ∃ records, loadDirectory tree "registry" = .ok records
        ∧ Ascending Record.name records
        ∧ Record.build "zig" {} ∈ records
        ∧ loadDirectory { tree with entries := tree.entries.reverse } "registry" = .ok records := by
  intro tree
  have hdirectory : tree.isDirectory "registry" = true := rfl
  have hkeys : (Keyed.keys tree.entries).Nodup := by decide
  obtain ⟨hsuccess, hrecords, -, -, horder⟩ := loadDirectory_by_files hdirectory
  have hreadable : ∀ name content, HasToolFile tree "registry" name content → Readable content := by
    intro name content hfile
    obtain ⟨-, rfl⟩ := hasToolFile_mixedDirectory.1 hfile
    exact (readable_iff "").2 ⟨_, ofContent_of_gives "" gives_oddText⟩
  obtain ⟨records, hload⟩ := hsuccess.2 hreadable
  obtain ⟨hascending, hmem⟩ := hrecords records hload
  refine ⟨hdirectory, hkeys, records, hload, hascending, ?_, ?_⟩
  · exact (hmem _).2 ⟨"zig", _, _, hasToolFile_mixedDirectory.2 ⟨rfl, rfl⟩, gives_oddText, rfl⟩
  · rw [horder hkeys _ tree.entries.reverse_perm.symm, hload]

/-- A document with a table that is marked as a date-time without being one, under a field of tools. -/
def markedText : String :=
  "[aliases]\n\"$__toml_private_datetime\" = \"x\"\n"

/-- Files that are UTF-8 and TOML are not enough for a directory to load. -/
theorem not_loads_every_document :
    ¬ ∀ (tree : FileTree) (path : String), tree.isDirectory path = true →
      ((∃ records, loadDirectory tree path = .ok records)
        ↔ ∀ name content, HasToolFile tree path name content →
          ∃ text document, Text.ofUtf8? content = some text ∧ Toml.parsePlain text = .ok document) := by
  intro hall
  have hdirectory : (mixedDirectory markedText).isDirectory "registry" = true := rfl
  have hutf8 := Text.ofUtf8?_toUTF8 markedText
  have hparse : Toml.parsePlain markedText
      = .ok [("aliases", .table [(Toml.datetimeKey, .string "x")])] := by cbv
  have hrefused : Refused "registry/zig.toml" markedText.toUTF8
      (.invalidToml "registry/zig.toml" .notADatetime) :=
    .notADatetime hutf8 hparse ⟨_, List.mem_cons_self, by decide, rfl⟩
  have hload : loadDirectory (mixedDirectory markedText) "registry"
      = .error (.invalidToml "registry/zig.toml" .notADatetime) := by
    refine (loadDirectory_eq_error hdirectory).2
      ⟨"zig.toml", _, hasToolFile_mixedDirectory.2 ⟨rfl, rfl⟩, hrefused, ?_⟩
    intro earlier content' hfile hlt
    obtain ⟨rfl, -⟩ := hasToolFile_mixedDirectory.1 hfile
    exact absurd hlt Std.lt_irrefl
  obtain ⟨records, hrecords⟩ := (hall _ _ hdirectory).2 fun name content hfile => by
    obtain ⟨-, rfl⟩ := hasToolFile_mixedDirectory.1 hfile
    exact ⟨_, _, hutf8, hparse⟩
  rw [hload] at hrecords
  cases hrecords

end Tool

end Catalog
