import Catalog.Loading
import Catalog.Proofs.Toml.Assembly

/-!
What loading a file gives: the text that was stored, and of a TOML file a table without repeated keys.
-/

namespace Catalog

theorem Text.ofUtf8?_toUTF8 (text : String) : ofUtf8? text.toUTF8 = some text := by
  unfold ofUtf8? String.fromUTF8?
  split
  · simp [String.fromUTF8]
  · rename_i h
    exact absurd text.isValidUTF8 h

namespace Loading

variable {tree : FileTree} {path : String}

theorem text_of_file {location : Location} {source : String} {executable : Bool}
    (hlocate : tree.locate path = .ok location)
    (hfile : tree.at? location = some (.file source.toUTF8 executable)) :
    text tree path = .ok source := by
  have hread : tree.read path = .ok source := by
    simp only [FileTree.read, hlocate, hfile, bind, Except.bind]
    rw [Text.ofUtf8?_toUTF8]
    rfl
  have hfound : tree.find? path = some (.file source.toUTF8 executable) := by
    rw [FileTree.find?, hlocate]
    exact hfile
  rw [text, hfound, hread]
  rfl

theorem plainTable_eq_ok {source : String} {document : Toml.Table}
    (htext : text tree path = .ok source) (hparse : Toml.parsePlain source = .ok document) :
    plainTable tree path = .ok document := by
  simp only [plainTable, htext, bind, Except.bind]
  rw [hparse]
  rfl

/-- A file with a table has a text that parses. -/
theorem exists_of_plainTable {document : Toml.Table} (h : plainTable tree path = .ok document) :
    ∃ source, text tree path = .ok source ∧ Toml.parsePlain source = .ok document := by
  unfold plainTable at h
  cases htext : text tree path with
  | error fault => simp [htext, bind, Except.bind] at h
  | ok source =>
    simp only [htext, bind, Except.bind] at h
    cases hparse : Toml.parsePlain source with
    | error fault =>
      rw [hparse] at h
      cases h
    | ok table =>
      rw [hparse] at h
      cases h
      exact ⟨source, rfl, hparse⟩

/-- No table of a file has a key twice, at any depth. -/
theorem distinct_of_plainTable {document : Toml.Table} (h : plainTable tree path = .ok document) :
    (Toml.Value.table document).Distinct := by
  obtain ⟨source, -, hparse⟩ := exists_of_plainTable h
  exact Toml.distinct_of_parsePlain hparse

end Loading

end Catalog
