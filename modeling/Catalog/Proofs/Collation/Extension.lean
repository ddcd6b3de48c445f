import Catalog.Proofs.Collation

/-!
Names that go on where other names end. Main statement: a name comes before every name that goes on after it
with a character that is no mark. No mark moves past such a character, so the name keeps its clusters and the
first level decides.
-/

namespace Catalog.Unicode

variable {s t : List Char} {c : Char}

theorem combiningClass_of_not_mark (h : isMark c = false) : combiningClass c = 0 := by
  rw [isMark, Option.isSome_eq_false_iff, Option.isNone_iff_eq_none] at h
  rw [combiningClass, h]
  rfl

/-! ### Canonical ordering -/

/-- A mark stays in front of a character of class zero. -/
theorem insertMark_append (h : combiningClass c = 0) (mark : Char) (rest : List Char) :
    ∀ s : List Char, insertMark mark (s ++ c :: rest) = insertMark mark s ++ c :: rest
  | [] => by simp [insertMark, h]
  | d :: s => by
    rw [List.cons_append, insertMark, insertMark]
    split
    · rw [insertMark_append h mark rest s]
      rfl
    · rfl

/-- What stands before a character of class zero is put in order by itself. -/
theorem reorder_append (h : combiningClass c = 0) (rest : List Char) :
    ∀ s : List Char, reorder (s ++ c :: rest) = reorder s ++ reorder (c :: rest)
  | [] => rfl
  | d :: s => by
    have hrest : reorder (c :: rest) = c :: reorder rest := by rw [reorder, if_pos h]
    rw [List.cons_append, reorder, reorder, reorder_append h rest s]
    split
    · rfl
    · rw [hrest]
      exact insertMark_append h d (reorder rest) (reorder s)

theorem exists_of_insertMark {mark : Char} (hmark : combiningClass mark ≠ 0)
    (h : insertMark mark s = c :: t) : combiningClass c ≠ 0 := by
  cases s with
  | nil =>
    cases h
    exact hmark
  | cons d rest =>
    rw [insertMark] at h
    split at h
    · rename_i hd
      cases h
      rw [Bool.and_eq_true, decide_eq_true_iff] at hd
      omega
    · cases h
      exact hmark

/-- A character of class zero that comes first has not moved. -/
theorem exists_of_reorder (h : reorder s = c :: t) (hc : combiningClass c = 0) : ∃ rest, s = c :: rest := by
  cases s with
  | nil => cases h
  | cons d rest =>
    rw [reorder] at h
    split at h
    · cases h
      exact ⟨rest, rfl⟩
    · rename_i hd
      exact absurd hc (exists_of_insertMark hd h)

/-- Texts are decomposed one after the other, if the second does not start with a mark. -/
theorem decomposed_append (h : (decomposed t).head? = some c) (hc : combiningClass c = 0) (s : List Char) :
    decomposed (s ++ t) = decomposed s ++ decomposed t := by
  obtain ⟨rest, hrest⟩ := List.head?_eq_some_iff.1 h
  obtain ⟨behind, hbehind⟩ := exists_of_reorder hrest hc
  rw [decomposed, decomposed, decomposed, List.flatMap_append, hbehind, reorder_append hc]

end Catalog.Unicode

namespace Catalog.Collation

variable {c : Char} {rest : String}

/-! ### Clusters -/

theorem splitMarks_append (h : Unicode.isMark c = false) (rest : List Char) : ∀ s : List Char,
    splitMarks (s ++ c :: rest) = ((splitMarks s).1, (splitMarks s).2 ++ clustersOf (c :: rest))
  | [] => by simp [splitMarks, clustersOf, h]
  | d :: s => by
    rw [List.cons_append, splitMarks, splitMarks, splitMarks_append h rest s]
    cases Unicode.isMark d <;> rfl

theorem clustersOf_append (h : Unicode.isMark c = false) (rest : List Char) :
    ∀ s : List Char, clustersOf (s ++ c :: rest) = clustersOf s ++ clustersOf (c :: rest)
  | [] => rfl
  | d :: s => by
    rw [List.cons_append, clustersOf, clustersOf, splitMarks_append h rest s]
    rfl

/-- The canonical decomposition starts with a character that is no mark. -/
def StartsAnew (name : String) : Prop :=
  ∃ c, (Unicode.decomposed name.toList).head? = some c ∧ Unicode.isMark c = false

/-- A name that starts anew leaves the clusters of the name before it as they are. -/
theorem clusters_append (h : StartsAnew rest) (name : String) :
    clusters (name ++ rest) = clusters name ++ clusters rest := by
  obtain ⟨c, hhead, hc⟩ := h
  have hclass := Unicode.combiningClass_of_not_mark hc
  obtain ⟨behind, hbehind⟩ := List.head?_eq_some_iff.1 hhead
  rw [clusters, clusters, clusters, String.toList_append, Unicode.decomposed_append hhead hclass,
    hbehind, clustersOf_append hc]

theorem exists_clusters (h : StartsAnew rest) : ∃ first more, clusters rest = first :: more := by
  obtain ⟨c, hhead, -⟩ := h
  obtain ⟨behind, hbehind⟩ := List.head?_eq_some_iff.1 hhead
  rw [clusters, hbehind]
  exact ⟨_, _, rfl⟩

/-! ### Lists that go on -/

/-- What two lists start with in common does not count. -/
theorem compare_append_left {α : Type} [Ord α] [Std.ReflOrd α] (s t : List α) :
    ∀ front : List α, compare (front ++ s) (front ++ t) = compare s t
  | [] => rfl
  | a :: front => by
    rw [List.cons_append, List.cons_append, List.compare_cons_cons, Std.compare_self,
      compare_append_left s t front]
    rfl

theorem compare_append_cons {α : Type} [Ord α] [Std.ReflOrd α] (a : α) (items more : List α) :
    compare items (items ++ a :: more) = .lt := by
  have hnil : compare (items ++ []) (items ++ a :: more) = .lt := compare_append_left [] (a :: more) items
  rwa [List.append_nil] at hnil

/-- A comparison that decides is followed by no other. -/
theorem compareLex_of_ne {α : Type} {first second : α → α → Ordering} {a b : α} (h : first a b ≠ .eq) :
    compareLex first second a b = first a b := by
  rw [compareLex]
  cases hfirst : first a b with
  | lt => rfl
  | eq => exact absurd hfirst h
  | gt => rfl

theorem collate_of_weights_ne {name other : String} (h : compareOn weights name other ≠ .eq) :
    collate name other = compareOn weights name other :=
  compareLex_of_ne h

/-- A name comes before every name that goes on after it with a character that is no mark, whatever marks
the name ends with and whatever follows. -/
theorem collate_append (name : String) (h : StartsAnew rest) : collate name (name ++ rest) = .lt := by
  obtain ⟨first, more, hrest⟩ := exists_clusters h
  have hfirst : compareOn weights name (name ++ rest) = .lt := by
    rw [compareOn, weights, weights, clusters_append h, hrest, List.map_append, List.map_cons]
    exact compare_append_cons _ _ _
  rw [collate_of_weights_ne (by rw [hfirst]; decide), hfirst]

/-- The name ends with marks that have to change places, and a letter with an accent follows. -/
theorem collate_append_accented :
    StartsAnew "\u00e9\u0301z"
      ∧ collate "a\u0345\u0301" ("a\u0345\u0301" ++ "\u00e9\u0301z") = .lt := by
  have hrest : StartsAnew "\u00e9\u0301z" := ⟨'e', by decide +kernel, by decide +kernel⟩
  exact ⟨hrest, collate_append _ hrest⟩

/-- A mark that is added may come to stand before the marks of the name. -/
example : collate "a\u0345" ("a\u0345" ++ "\u0301") = .gt := by
  decide +kernel

end Catalog.Collation
