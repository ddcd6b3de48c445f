import Catalog.Path
import Catalog.Proofs.Text.Split

/-!
Segments of a path. A path is its segments with slashes between them, and texts without slashes that are
put together in this way are its segments.
-/

namespace Catalog.Path

variable {path other segment : String}

theorem map_toList_segments (path : String) :
    (segments path).map String.toList = path.toList.splitOnP (· = '/') := by
  rw [segments, List.map_map,
    show String.toList ∘ String.ofList = id from funext fun _ => String.toList_ofList, List.map_id]

/-! ### Paths put together -/

theorem segments_of_noSlash {name : String} (h : '/' ∉ name.toList) : segments name = [name] := by
  simp [segments, Text.splitOnP_of_not_mem h]

/-- A slash ends the segment before it and starts another one. -/
theorem segments_append (front rest : String) :
    segments (front ++ "/" ++ rest) = segments front ++ segments rest := by
  simp only [segments, String.toList_append, List.append_assoc]
  rw [show "/".toList = ['/'] from rfl, List.singleton_append,
    List.splitOnP_append_cons _ _ (by simp), List.map_append]

theorem segments_append_slash (front name : String) (h : '/' ∉ name.toList) :
    segments (front ++ "/" ++ name) = segments front ++ [name] := by
  rw [segments_append, segments_of_noSlash h]

/-- Texts without slashes are the segments of the path that they are put together to. -/
theorem segments_intercalate {names : List String} (hne : names ≠ [])
    (h : ∀ name ∈ names, '/' ∉ name.toList) : segments ("/".intercalate names) = names := by
  apply List.map_injective_iff.2 fun _ _ => String.toList_inj.1
  rw [map_toList_segments, String.toList_intercalate]
  exact List.splitOn_intercalate '/' (List.forall_mem_map.2 h) (by simpa using hne)

/-! ### Paths taken apart -/

theorem length_segments (path : String) :
    (segments path).length = path.toList.count '/' + 1 := by
  rw [segments, List.length_map, Text.length_splitOnP]

theorem noSlash_of_mem_segments (h : segment ∈ segments path) : '/' ∉ segment.toList := by
  obtain ⟨piece, hpiece, rfl⟩ := List.mem_map.1 h
  rw [String.toList_ofList]
  intro hmem
  have hnot := (Text.forall_mem_of_mem_splitOnP hpiece '/' hmem).2
  simp at hnot

theorem intercalate_segments (path : String) : "/".intercalate (segments path) = path := by
  rw [← String.toList_inj, String.toList_intercalate, map_toList_segments]
  exact List.intercalate_splitOn '/'

/-- Nothing of a path is lost in its segments, not even an empty one. -/
theorem segments_inj : segments path = segments other ↔ path = other := by
  constructor
  · intro h
    rw [← intercalate_segments path, h, intercalate_segments]
  · intro h
    rw [h]

end Catalog.Path
