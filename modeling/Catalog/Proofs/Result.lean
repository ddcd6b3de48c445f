import Mathlib

/-!
Computations that may fail, opened where they succeed and where they fail. Mapping such a computation over a list succeeds
when it does for every item, and then goes item by item.
-/

namespace Catalog.Result

variable {ε δ α β : Type}

@[simp] theorem ok_bind (a : α) (f : α → Except ε β) : Except.ok a >>= f = f a :=
  rfl

@[simp] theorem error_bind (e : ε) (f : α → Except ε β) : Except.error e >>= f = .error e :=
  rfl

@[simp] theorem bind_eq_ok {x : Except ε α} {f : α → Except ε β} {b : β} :
    x >>= f = .ok b ↔ ∃ a, x = .ok a ∧ f a = .ok b := by
  cases x <;> simp [bind, Except.bind]

@[simp] theorem pure_eq_ok {a b : α} : (pure a : Except ε α) = .ok b ↔ a = b := by
  simp [pure, Except.pure]

/-- A computation succeeds or fails. -/
theorem exists_ok_iff {x : Except ε α} : (∃ a, x = .ok a) ↔ ¬ ∃ e, x = .error e := by
  cases x <;> simp

theorem bind_eq_error {x : Except ε α} {f : α → Except ε β} {e : ε} :
    x >>= f = .error e ↔ x = .error e ∨ ∃ a, x = .ok a ∧ f a = .error e := by
  cases x <;> simp

/-- A last step that cannot fail leaves the failures as they are. -/
theorem bind_pure_eq_error {x : Except ε α} {f : α → β} {e : ε} :
    (x >>= fun a => pure (f a)) = .error e ↔ x = .error e := by
  cases x <;> simp [pure, Except.pure]

@[simp] theorem mapError_eq_ok {x : Except ε α} {f : ε → δ} {a : α} :
    x.mapError f = .ok a ↔ x = .ok a := by
  cases x <;> simp [Except.mapError]

@[simp] theorem map_eq_ok {x : Except ε α} {f : α → β} {b : β} :
    x.map f = .ok b ↔ ∃ a, x = .ok a ∧ f a = b := by
  cases x <;> simp [Except.map]

theorem mapM_eq_ok {f : α → Except ε β} : ∀ {items : List α} {results : List β},
    items.mapM f = .ok results ↔ List.Forall₂ (fun item result => f item = .ok result) items results
  | [], results => by cases results <;> simp
  | item :: rest, results => by
    rw [List.mapM_cons, bind_eq_ok]
    constructor
    · rintro ⟨first, hfirst, h⟩
      obtain ⟨later, hlater, hresults⟩ := bind_eq_ok.1 h
      rw [← pure_eq_ok.1 hresults]
      exact .cons hfirst (mapM_eq_ok.1 hlater)
    · rintro (_ | ⟨hfirst, hlater⟩)
      exact ⟨_, hfirst, bind_eq_ok.2 ⟨_, mapM_eq_ok.2 hlater, rfl⟩⟩

theorem mapM_map_eq_ok {γ : Type} {f : β → Except ε γ} {before : α → β} {after : α → γ}
    {items : List α} (h : ∀ item ∈ items, f (before item) = .ok (after item)) :
    (items.map before).mapM f = .ok (items.map after) := by
  rw [mapM_eq_ok, List.forall₂_map_left_iff, List.forall₂_map_right_iff, List.forall₂_same]
  exact h

/-- A computation that succeeds on a list succeeds on any arrangement of it, and the results are
arranged alike. -/
theorem mapM_perm {f : α → Except ε β} {items others : List α} {results : List β}
    (h : items.mapM f = .ok results) (hperm : items.Perm others) :
    ∃ arranged, others.mapM f = .ok arranged ∧ results.Perm arranged := by
  obtain ⟨arranged, hothers, harranged⟩ := List.perm_comp_forall₂ hperm.symm (mapM_eq_ok.1 h)
  exact ⟨arranged, mapM_eq_ok.2 hothers, harranged.symm⟩

/-- Each result comes from an item. -/
theorem exists_of_mem_mapM {f : α → Except ε β} {items : List α} {results : List β}
    (h : items.mapM f = .ok results) {result : β} (hmem : result ∈ results) :
    ∃ item ∈ items, f item = .ok result := by
  induction mapM_eq_ok.1 h with
  | nil => cases hmem
  | cons hfirst hlater ih =>
    rcases List.mem_cons.1 hmem with rfl | hmem
    · exact ⟨_, List.mem_cons_self, hfirst⟩
    · obtain ⟨item, hitem, hresult⟩ := ih (mapM_eq_ok.2 hlater) hmem
      exact ⟨item, List.mem_cons_of_mem _ hitem, hresult⟩

/-- A feature that every success passes on from item to result, over a whole list. -/
theorem map_eq_of_mapM {γ : Type} {f : α → Except ε β} {before : α → γ} {after : β → γ}
    (hkeep : ∀ item result, f item = .ok result → after result = before item) {items : List α}
    {results : List β} (h : items.mapM f = .ok results) : results.map after = items.map before := by
  induction mapM_eq_ok.1 h with
  | nil => rfl
  | cons hfirst hlater ih =>
    rw [List.map_cons, List.map_cons, hkeep _ _ hfirst, ih (mapM_eq_ok.2 hlater)]

/-- Items that are left out leave out their results, and nothing else changes. -/
theorem mapM_filter {f : α → Except ε β} {before : α → Bool} {after : β → Bool}
    (hsame : ∀ item result, f item = .ok result → after result = before item) {items : List α}
    {results : List β} (h : items.mapM f = .ok results) :
    (items.filter before).mapM f = .ok (results.filter after) := by
  induction mapM_eq_ok.1 h with
  | nil => rfl
  | @cons item result rest later hfirst hlater ih =>
    have hrest := ih (mapM_eq_ok.2 hlater)
    rw [List.filter_cons, List.filter_cons, hsame _ _ hfirst]
    split
    · rw [List.mapM_cons, hfirst, ok_bind, hrest]
      rfl
    · exact hrest

/-- The items with their results. -/
theorem exists_pairs_of_mapM {f : α → Except ε β} {items : List α} {results : List β}
    (h : items.mapM f = .ok results) : ∃ pairs : List (α × β), pairs.map (·.1) = items
      ∧ pairs.map (·.2) = results ∧ ∀ pair ∈ pairs, f pair.1 = .ok pair.2 := by
  obtain ⟨hlength, hall⟩ := List.forall₂_iff_zip.1 (mapM_eq_ok.1 h)
  refine ⟨items.zip results, ?_, ?_, fun pair hpair => hall hpair⟩
  · exact List.map_fst_zip hlength.le
  · exact List.map_snd_zip hlength.ge

theorem mapM_congr {f g : α → Except ε β} : ∀ {items : List α}, (∀ item ∈ items, f item = g item) →
    items.mapM f = items.mapM g
  | [], _ => rfl
  | item :: rest, h => by
    obtain ⟨hitem, hrest⟩ := List.forall_mem_cons.1 h
    rw [List.mapM_cons, List.mapM_cons, hitem, mapM_congr hrest]

theorem exists_mapM_iff {f : α → Except ε β} : ∀ {items : List α},
    (∃ results, items.mapM f = .ok results) ↔ ∀ item ∈ items, ∃ result, f item = .ok result
  | [] => by simp
  | item :: rest => by
    have hlater : (∃ results, rest.mapM f = .ok results) ↔ _ := exists_mapM_iff
    simp only [List.mapM_cons, bind_eq_ok, pure_eq_ok, List.forall_mem_cons, ← hlater]
    constructor
    · rintro ⟨_, first, hfirst, later, hlater, -⟩
      exact ⟨⟨first, hfirst⟩, later, hlater⟩
    · rintro ⟨⟨first, hfirst⟩, later, hlater⟩
      exact ⟨_, first, hfirst, later, hlater, rfl⟩

/-- What stands behind an item that fails does not matter. -/
theorem mapM_of_error {f : α → Except ε β} {item : α} {e : ε} (h : f item = .error e)
    (before after : List α) : (before ++ item :: after).mapM f = before.mapM f >>= fun _ => .error e := by
  rw [List.mapM_append, List.mapM_cons, h]
  rfl

/-- A list fails as its first item that fails. -/
theorem mapM_eq_error {f : α → Except ε β} {e : ε} : ∀ {items : List α},
    items.mapM f = .error e ↔ ∃ before item after, items = before ++ item :: after
      ∧ f item = .error e ∧ ∀ earlier ∈ before, ∃ result, f earlier = .ok result
  | [] => by simp [pure, Except.pure]
  | head :: rest => by
    rw [List.mapM_cons]
    cases hhead : f head with
    | error fault =>
      rw [error_bind]
      constructor
      · rintro ⟨⟩
        exact ⟨[], head, rest, rfl, hhead, by simp⟩
      · rintro ⟨before, item, after, hitems, hitem, hbefore⟩
        rcases before with _ | ⟨first, before⟩
        · obtain ⟨rfl, -⟩ := List.cons.inj hitems
          rw [hhead] at hitem
          cases hitem
          rfl
        · obtain ⟨rfl, -⟩ := List.cons.inj hitems
          obtain ⟨result, hresult⟩ := hbefore head List.mem_cons_self
          rw [hhead] at hresult
          cases hresult
    | ok first =>
      have htail : (rest.mapM f >>= fun later => pure (first :: later)) = .error e
          ↔ rest.mapM f = .error e := by
        cases rest.mapM f <;> simp [pure, Except.pure]
      rw [ok_bind, htail, mapM_eq_error]
      constructor
      · rintro ⟨before, item, after, rfl, hitem, hbefore⟩
        exact ⟨head :: before, item, after, rfl, hitem,
          List.forall_mem_cons.2 ⟨⟨first, hhead⟩, hbefore⟩⟩
      · rintro ⟨before, item, after, hitems, hitem, hbefore⟩
        rcases before with _ | ⟨_, before⟩
        · obtain ⟨rfl, -⟩ := List.cons.inj hitems
          rw [hhead] at hitem
          cases hitem
        · obtain ⟨rfl, rfl⟩ := List.cons.inj hitems
          exact ⟨before, item, after, rfl, hitem, (List.forall_mem_cons.1 hbefore).2⟩

end Catalog.Result
