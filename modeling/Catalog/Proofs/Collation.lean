import Catalog.Collation

/-!
The order of names is a strict total order, whatever level decides each comparison. So a list whose
names differ pairwise has exactly one arrangement in ascending order, and sorting finds it from any
other arrangement.
-/

namespace Catalog.Collation

open Std (TransCmp OrientedCmp LawfulEqCmp)

variable {α : Type} {name : α → String}

/-- Each level compares two names by a key of them, and every kind of key has a transitive order. -/
instance transCmp_collate : TransCmp collate :=
  inferInstanceAs <| TransCmp <|
    compareLex (compareOn weights) <|
    compareLex (compareOn accents) <|
    compareLex (compareOn cases) compare

/-- Names that no level tells apart have the same code points. -/
theorem eq_of_collate_eq {a b : String} (h : collate a b = .eq) : a = b := by
  unfold collate at h
  obtain ⟨_, h⟩ := compareLex_eq_eq.1 h
  obtain ⟨_, h⟩ := compareLex_eq_eq.1 h
  obtain ⟨_, h⟩ := compareLex_eq_eq.1 h
  exact LawfulEqCmp.eq_of_compare h

instance lawfulEqCmp_collate : LawfulEqCmp collate where
  compare_self := Std.ReflCmp.compare_self
  eq_of_compare := eq_of_collate_eq

/-- The order of names is a strict total order. -/
theorem collate_strict_total (a b c : String) :
    (collate a b = .eq ↔ a = b) ∧ collate b a = (collate a b).swap ∧
      (collate a b = .lt → collate b c = .lt → collate a c = .lt) := by
  refine ⟨⟨eq_of_collate_eq, ?_⟩, OrientedCmp.eq_swap, TransCmp.lt_trans⟩
  rintro rfl
  exact Std.ReflCmp.compare_self

/-! ### Sorting by name -/

/-- Strictly ascending names. -/
def Ascending (name : α → String) (items : List α) : Prop :=
  items.Pairwise fun a b => collate (name a) (name b) = .lt

theorem sortBy_perm (name : α → String) (items : List α) : (sortBy name items).Perm items :=
  List.mergeSort_perm items _

theorem sortBy_pairwise (name : α → String) (items : List α) :
    (sortBy name items).Pairwise fun a b => (collate (name a) (name b)).isLE := by
  refine List.pairwise_mergeSort ?_ ?_ items
  · intro a b c hab hbc
    exact TransCmp.isLE_trans hab hbc
  · intro a b
    have hswap : collate (name b) (name a) = (collate (name a) (name b)).swap :=
      OrientedCmp.eq_swap
    rw [hswap]
    cases collate (name a) (name b) <;> rfl

/-- Items that take their names from others are sorted as those are. -/
theorem sortBy_map {β : Type} {f : β → α} {label : β → String} {items : List β}
    (h : ∀ item ∈ items, name (f item) = label item) :
    sortBy name (items.map f) = (sortBy label items).map f := by
  refine (List.map_mergeSort fun a ha b hb => ?_).symm
  rw [h a ha, h b hb]

/-- Sorting items with distinct names leaves no two of them tied. -/
theorem ascending_sortBy {items : List α} (h : (items.map name).Nodup) :
    Ascending name (sortBy name items) := by
  have hnames : (sortBy name items).Pairwise fun a b => name a ≠ name b :=
    List.pairwise_map.1 (((sortBy_perm name items).map name).nodup_iff.2 h)
  refine (sortBy_pairwise name items).imp₂ ?_ hnames
  intro a b hle hne
  cases hc : collate (name a) (name b) with
  | lt => rfl
  | eq => exact absurd (eq_of_collate_eq hc) hne
  | gt => rw [hc] at hle; cases hle

/-- A list has at most one arrangement with strictly ascending names. -/
theorem Ascending.eq_of_perm {items others : List α} (hitems : Ascending name items)
    (hothers : Ascending name others) (h : items.Perm others) : items = others := by
  refine List.Perm.eq_of_pairwise ?_ hitems hothers h
  intro a b _ _ hab hba
  have hrefl : collate (name a) (name a) = .eq := Std.ReflCmp.compare_self
  rw [TransCmp.lt_trans hab hba] at hrefl
  cases hrefl

/-- Items that are left out of a list leave the others in their order. -/
theorem sortBy_filter {items : List α} (hnames : (items.map name).Nodup) (p : α → Bool) :
    sortBy name (items.filter p) = (sortBy name items).filter p := by
  refine (ascending_sortBy ?_).eq_of_perm ((ascending_sortBy hnames).filter p) ?_
  · exact hnames.sublist (List.filter_sublist.map name)
  · exact (sortBy_perm name _).trans ((sortBy_perm name items).filter p).symm

/-- Sorting does not depend on the arrangement of items with distinct names. -/
theorem sortBy_eq_of_perm {items others : List α} (hnames : (items.map name).Nodup)
    (h : items.Perm others) : sortBy name items = sortBy name others := by
  refine (ascending_sortBy hnames).eq_of_perm (ascending_sortBy ?_) ?_
  · exact (h.map name).nodup_iff.1 hnames
  · exact (sortBy_perm name items).trans (h.trans (sortBy_perm name others).symm)

end Catalog.Collation
