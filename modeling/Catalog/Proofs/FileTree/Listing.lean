import Catalog.Proofs.FileTree
import Catalog.Proofs.Keyed

/-!
Listing the files of a directory that have an extension. The listing is decided by which files there are:
it has the name of each one once, in ascending order, and the order in which the tree holds its entries
does not show in it.
-/

namespace Catalog

namespace Path

theorem splitExtension_append {name extension : String} (hname : name ≠ "")
    (hextension : '.' ∉ extension.toList) :
    splitExtension (name ++ "." ++ extension) = (name, some extension) := by
  have hreverse : (name ++ "." ++ extension).toList.reverse
      = extension.toList.reverse ++ '.' :: name.toList.reverse := by simp
  have hcut : Text.cut? '.' (name ++ "." ++ extension).toList.reverse
      = some (extension.toList.reverse, name.toList.reverse) := by
    rw [hreverse, Text.cut?_append (by simpa using hextension)]
  rcases hstem : name.toList.reverse with _ | ⟨last, front⟩
  · rw [List.reverse_eq_nil_iff, String.toList_eq_nil_iff] at hstem
    exact absurd hstem hname
  · rw [splitExtension, hcut, hstem]
    simp [← hstem]

/-- A name with an extension is its stem, a dot and the extension. -/
theorem eq_append_of_extension? {name extension : String} (h : extension? name = some extension) :
    name = stem name ++ "." ++ extension := by
  unfold extension? at h
  unfold stem
  unfold splitExtension at h ⊢
  split at h
  · rename_i cutOff c rest hcut
    cases h
    have hreverse := (Text.eq_append_of_cut? hcut).1
    rw [← String.toList_inj, ← List.reverse_inj, hreverse]
    simp
  · cases h

end Path

namespace FileTree

variable {tree other : FileTree} {directory name extension : String} {content : ByteArray}

/-- A file directly in a directory: its name is one of those there, and the path of that name leads to
it. -/
def HasFile (tree : FileTree) (directory name : String) (content : ByteArray) : Prop :=
  (∃ location, tree.locate directory = .ok location ∧ name ∈ tree.children location)
    ∧ ∃ executable, tree.find? (Path.join directory name) = some (.file content executable)

theorem isDirectory_iff : tree.isDirectory directory = true
    ↔ ∃ location, tree.locate directory = .ok location ∧ tree.at? location = some .directory := by
  rw [← find?_eq_some, isDirectory]
  cases tree.find? directory with
  | none => simp
  | some entry => cases entry <;> simp

theorem isFile_iff {path : String} : tree.isFile path = true
    ↔ ∃ content executable, tree.find? path = some (.file content executable) := by
  rw [isFile]
  cases tree.find? path with
  | none => simp
  | some entry => cases entry <;> simp

/-- A directory can be listed, and the listing has the names of the files with the extension. -/
theorem exists_filesWith (h : tree.isDirectory directory = true) (extension : String) :
    ∃ names, tree.filesWith directory extension = .ok names ∧ Sorted.Ascending id names
      ∧ ∀ name, name ∈ names
        ↔ Path.extension? name = some extension ∧ ∃ content, tree.HasFile directory name content := by
  obtain ⟨location, hlocate, hdirectory⟩ := isDirectory_iff.1 h
  have hlist : tree.filesWith directory extension
      = .ok (Sorted.setOf ((tree.children location).filter fun name =>
          Path.extension? name = some extension && tree.isFile (Path.join directory name))) := by
    rw [filesWith, hlocate, Result.ok_bind, hdirectory]
    rfl
  refine ⟨_, hlist, Sorted.ascending_setOf _, fun name => ?_⟩
  rw [Sorted.mem_setOf, List.mem_filter, Bool.and_eq_true, decide_eq_true_iff, isFile_iff]
  constructor
  · rintro ⟨hname, hextension, content, executable, hfile⟩
    exact ⟨hextension, content, ⟨location, hlocate, hname⟩, executable, hfile⟩
  · rintro ⟨hextension, content, ⟨place, hplace, hname⟩, executable, hfile⟩
    rw [hlocate] at hplace
    cases hplace
    exact ⟨hname, hextension, content, executable, hfile⟩

/-! ### Enumeration -/

theorem locate_congr (hat : other.at? = tree.at?) (hcurrent : other.current = tree.current)
    (path : String) : other.locate path = tree.locate path := by
  have hdescend : other.descend = tree.descend := by
    funext location segment
    rw [descend, descend, hat]
  rw [locate, locate, walk, walk, hdescend, hcurrent]

theorem find?_congr (hat : other.at? = tree.at?) (hcurrent : other.current = tree.current)
    (path : String) : other.find? path = tree.find? path := by
  rw [find?, find?, locate_congr hat hcurrent, hat]

/-- A tree whose entries are held in another order finds the same. -/
theorem at?_of_perm {entries : List (Location × FileEntry)} (h : (Keyed.keys tree.entries).Nodup)
    (hperm : tree.entries.Perm entries) : { tree with entries }.at? = tree.at? := by
  funext location
  rw [at?, at?, Keyed.get?_eq_of_perm h hperm]

theorem hasFile_of_perm {entries : List (Location × FileEntry)}
    (h : (Keyed.keys tree.entries).Nodup) (hperm : tree.entries.Perm entries) :
    { tree with entries }.HasFile directory name content ↔ tree.HasFile directory name content := by
  have hat := at?_of_perm h hperm
  have hchildren (location : Location) :
      name ∈ { tree with entries }.children location ↔ name ∈ tree.children location :=
    (hperm.filterMap _).mem_iff.symm
  simp only [HasFile, locate_congr hat rfl, find?_congr hat rfl, hchildren]

end FileTree

end Catalog
