/-!
Lists in strictly ascending order of a text key. Inserting an item with a key that is there already
replaces the old item.
-/

namespace Catalog.Sorted

variable {α : Type}

/-- Strictly ascending keys. -/
def Ascending (key : α → String) (items : List α) : Prop :=
  items.Pairwise fun a b => key a < key b

instance (key : α → String) (items : List α) : Decidable (Ascending key items) :=
  inferInstanceAs (Decidable (List.Pairwise _ _))

/-- Puts an item at its place, instead of an item with the same key. -/
def insert (key : α → String) (item : α) : List α → List α
  | [] => [item]
  | head :: rest =>
    if key item < key head then item :: head :: rest
    else if key item = key head then item :: rest
    else head :: insert key item rest

theorem mem_of_mem_insert {key : α → String} {item x : α} {items : List α}
    (h : x ∈ insert key item items) : x = item ∨ x ∈ items := by
  induction items with
  | nil => simpa [insert] using h
  | cons head rest ih =>
    unfold insert at h
    split at h
    · simpa using h
    · split at h
      · rcases List.mem_cons.1 h with h | h
        · exact .inl h
        · exact .inr (List.mem_cons_of_mem _ h)
      · rcases List.mem_cons.1 h with h | h
        · exact .inr (h ▸ List.mem_cons_self)
        · exact (ih h).imp_right (List.mem_cons_of_mem _)

theorem lt_of_not_lt_of_ne {a b : String} (h : ¬ a < b) (hne : a ≠ b) : b < a :=
  Std.lt_of_le_of_ne (Std.not_lt.1 h) (Ne.symm hne)

theorem ascending_insert {key : α → String} {items : List α} (h : Ascending key items) (item : α) :
    Ascending key (insert key item items) := by
  induction items with
  | nil => simp [insert, Ascending]
  | cons head rest ih =>
    obtain ⟨hhead, hrest⟩ := List.pairwise_cons.1 h
    unfold insert
    split
    · rename_i hlt
      refine List.pairwise_cons.2 ⟨fun x hx => ?_, h⟩
      rcases List.mem_cons.1 hx with rfl | hx
      · exact hlt
      · exact Std.lt_trans hlt (hhead x hx)
    · split
      · rename_i heq
        exact List.pairwise_cons.2 ⟨fun x hx => heq ▸ hhead x hx, hrest⟩
      · rename_i hlt hne
        refine List.pairwise_cons.2 ⟨fun x hx => ?_, ih hrest⟩
        rcases mem_of_mem_insert hx with rfl | hx
        · exact lt_of_not_lt_of_ne hlt hne
        · exact hhead x hx

/-- A set of texts, in ascending order. -/
def setOf (items : List String) : List String :=
  items.foldl (fun sorted item => insert id item sorted) []

theorem ascending_setOf (items : List String) : Ascending id (setOf items) := by
  suffices ∀ sorted, Ascending id sorted →
      Ascending id (items.foldl (fun sorted item => insert id item sorted) sorted) from
    this [] List.Pairwise.nil
  induction items with
  | nil => exact fun _ h => h
  | cons item rest ih => exact fun sorted h => ih _ (ascending_insert h item)

theorem mem_insert_id {item x : String} {items : List String} :
    x ∈ insert id item items ↔ x = item ∨ x ∈ items := by
  refine ⟨mem_of_mem_insert, fun h => ?_⟩
  induction items with
  | nil => simpa [insert] using h
  | cons head rest ih =>
    unfold insert
    split
    · simpa using h
    · split
      · rename_i heq
        rcases h with rfl | h
        · exact List.mem_cons_self
        · rcases List.mem_cons.1 h with rfl | h
          · exact List.mem_cons.2 (.inl heq.symm)
          · exact List.mem_cons_of_mem _ h
      · rcases h with rfl | h
        · exact List.mem_cons_of_mem _ (ih (.inl rfl))
        · rcases List.mem_cons.1 h with rfl | h
          · exact List.mem_cons_self
          · exact List.mem_cons_of_mem _ (ih (.inr h))

theorem mem_setOf {x : String} {items : List String} : x ∈ setOf items ↔ x ∈ items := by
  suffices ∀ sorted, x ∈ items.foldl (fun sorted item => insert id item sorted) sorted
      ↔ x ∈ sorted ∨ x ∈ items by
    simpa [setOf] using this []
  induction items with
  | nil => simp
  | cons item rest ih =>
    intro sorted
    rw [List.foldl_cons, ih, mem_insert_id, List.mem_cons, or_assoc, or_left_comm]

theorem Ascending.nodup {items : List String} (h : Ascending id items) : items.Nodup :=
  List.Pairwise.imp Std.ne_of_lt h

/-- Strictly ascending lists are equal if they have the same members. -/
theorem Ascending.ext {items others : List String} (hitems : Ascending id items)
    (hothers : Ascending id others) (h : ∀ x, x ∈ items ↔ x ∈ others) : items = others := by
  refine List.Perm.eq_of_pairwise ?_ hitems hothers
    ((List.perm_ext_iff_of_nodup hitems.nodup hothers.nodup).2 h)
  intro a b _ _ hab hba
  exact absurd (Std.lt_trans hab hba) Std.lt_irrefl

end Catalog.Sorted
