import Catalog.Keyed
import Mathlib

/-!
Association lists with distinct keys. Such a list is kept by putting its entries one after the other, it
is known by what stands at each key, and its arrangement does not show in a look-up.
-/

namespace Catalog.Keyed

variable {κ α : Type} [DecidableEq κ]

/-! ### Putting entries one after the other -/

theorem put_of_not_mem {entries : List (κ × α)} {key : κ} (h : key ∉ keys entries) (value : α) :
    put entries key value = entries ++ [(key, value)] := by
  induction entries with
  | nil => rfl
  | cons head rest ih =>
    simp only [keys, List.map_cons, List.mem_cons, not_or] at h
    rw [put, if_neg (Ne.symm h.1), ih h.2, List.cons_append]

theorem foldl_put_of_nodup : ∀ (pairs entries : List (κ × α)), (keys (entries ++ pairs)).Nodup →
    pairs.foldl (fun entries pair => put entries pair.1 pair.2) entries = entries ++ pairs
  | [], entries, _ => by simp
  | (key, value) :: rest, entries, h => by
    have hkey : key ∉ keys entries := by
      rw [keys, List.map_append, List.nodup_append] at h
      intro hmem
      exact h.2.2 key hmem key (by simp) rfl
    rw [List.foldl_cons, put_of_not_mem hkey,
      foldl_put_of_nodup rest _ (by simpa using h), List.append_assoc, List.singleton_append]

/-- Pairs with distinct keys are kept as they are. -/
theorem ofPairs_of_nodup {pairs : List (κ × α)} (h : (keys pairs).Nodup) : ofPairs pairs = pairs := by
  rw [ofPairs, foldl_put_of_nodup pairs [] (by simpa using h), List.nil_append]

theorem mem_ofPairs {pairs : List (κ × α)} {pair : κ × α} (h : pair ∈ ofPairs pairs) :
    pair ∈ pairs := by
  have hfold : ∀ (pairs entries : List (κ × α)),
      pair ∈ pairs.foldl (fun entries pair => put entries pair.1 pair.2) entries →
      pair ∈ entries ∨ pair ∈ pairs := by
    intro pairs
    induction pairs with
    | nil => exact fun _ => .inl
    | cons head rest ih =>
      intro entries hmem
      obtain hmem | hmem := ih _ hmem
      · obtain hmem | rfl := mem_put hmem
        · exact .inl hmem
        · exact .inr List.mem_cons_self
      · exact .inr (List.mem_cons_of_mem _ hmem)
  exact (hfold pairs [] h).resolve_left List.not_mem_nil

/-! ### Looking up -/

theorem mem_iff_get? {entries : List (κ × α)} (h : (keys entries).Nodup) {key : κ} {value : α} :
    (key, value) ∈ entries ↔ get? entries key = some value :=
  ⟨get?_of_mem h, mem_of_get?⟩

/-- Where each key stands once, the order of the entries does not matter. -/
theorem get?_eq_of_perm {entries others : List (κ × α)} (h : (keys entries).Nodup)
    (hperm : entries.Perm others) (key : κ) : get? others key = get? entries key := by
  have hkeys : (keys entries).Perm (keys others) := hperm.map Prod.fst
  cases hvalue : get? entries key with
  | none =>
    rw [get?_eq_none_iff] at hvalue ⊢
    exact fun hmem => hvalue (hkeys.mem_iff.2 hmem)
  | some value => exact get?_of_mem (hkeys.nodup_iff.1 h) (hperm.mem_iff.1 (mem_of_get? hvalue))

/-- Where each key stands once, the entries are those that the keys lead to. -/
theorem perm_of_get? {entries others : List (κ × α)} (h : (keys entries).Nodup)
    (hothers : (keys others).Nodup) (hsame : ∀ key, get? entries key = get? others key) :
    entries.Perm others := by
  refine (List.perm_ext_iff_of_nodup (.of_map _ h) (.of_map _ hothers)).2 ?_
  rintro ⟨key, value⟩
  rw [mem_iff_get? h, mem_iff_get? hothers, hsame]

/-- Behind distinct keys, the value at a key is the one at its place. -/
theorem get?_zip {names : List κ} (h : names.Nodup) {i : Nat} {key : κ} (hkey : names[i]? = some key)
    (values : List α) : get? (names.zip values) key = values[i]? := by
  induction names generalizing values i with
  | nil => cases hkey
  | cons name rest ih =>
    obtain ⟨hname, hrest⟩ := List.nodup_cons.1 h
    cases values with
    | nil => rfl
    | cons value values =>
      cases i with
      | zero =>
        cases hkey
        simp [get?]
      | succ i =>
        have hmem : key ∈ rest := List.mem_of_getElem? hkey
        have hne : name ≠ key := fun he => hname (he ▸ hmem)
        simpa [get?, hne] using ih hrest hkey values

theorem get?_filter {p : κ → Bool} {key : κ} (h : p key = true) :
    ∀ entries : List (κ × α), get? (entries.filter fun entry => p entry.1) key = get? entries key
  | [] => rfl
  | (name, value) :: rest => by
    rw [List.filter_cons]
    split
    · rw [get?, get?, get?_filter h rest]
    · rename_i hname
      have hne : name ≠ key := by
        rintro rfl
        exact hname h
      rw [get?_filter h rest, get?, if_neg hne]

omit [DecidableEq κ] in
theorem keys_map {β : Type} (f : α → β) (entries : List (κ × α)) :
    keys (entries.map fun entry => (entry.1, f entry.2)) = keys entries := by
  rw [keys, List.map_map]
  rfl

theorem get?_map {β : Type} (f : α → β) (key : κ) : ∀ entries : List (κ × α),
    get? (entries.map fun entry => (entry.1, f entry.2)) key = (get? entries key).map f
  | [] => rfl
  | (name, value) :: rest => by
    rw [List.map_cons, get?, get?]
    split
    · rfl
    · exact get?_map f key rest

/-- Lists with the same keys have a value at the same keys. -/
theorem exists_get?_of_perm {β : Type} {entries : List (κ × α)} {others : List (κ × β)}
    (hkeys : (keys entries).Perm (keys others)) {key : κ} {value : α} (h : get? entries key = some value) :
    ∃ other, get? others key = some other := by
  have hkey : key ∈ keys entries := has_iff.1 (Option.isSome_of_eq_some h)
  exact Option.isSome_iff_exists.1 (has_iff.2 (hkeys.mem_iff.1 hkey))

theorem eq_map_keys {entries : List (κ × α)} (h : (keys entries).Nodup) (value : α) :
    entries = (keys entries).map fun key => (key, (get? entries key).getD value) := by
  have hsame : ∀ entry ∈ entries, (entry.1, (get? entries entry.1).getD value) = entry :=
    fun (key, held) hmem => by rw [get?_of_mem h hmem, Option.getD_some]
  rw [keys, List.map_map]
  exact ((List.map_congr_left hsame).trans (List.map_id' entries)).symm

/-! ### Keys in the order of their first appearance -/

theorem eraseDups_concat (names : List κ) (name : κ) :
    (names ++ [name]).eraseDups
      = if name ∈ names.eraseDups then names.eraseDups else names.eraseDups ++ [name] := by
  rw [List.eraseDups_append]
  by_cases h : name ∈ names <;> simp [List.removeAll, List.eraseDups_cons, h]

theorem nodup_eraseDups (names : List κ) : names.eraseDups.Nodup := by
  induction names using List.reverseRecOn with
  | nil => simp
  | append_singleton names name ih =>
    rw [eraseDups_concat]
    exact nodup_extended ih name

/-- If each item adds its key unless the key is there, the keys are those of the items, each at the place
of its first one. -/
theorem keys_foldl {β : Type} {step : List (κ × α) → β → List (κ × α)} {key : β → κ}
    (h : ∀ entries item, keys (step entries item)
      = if key item ∈ keys entries then keys entries else keys entries ++ [key item])
    (items : List β) : keys (items.foldl step []) = (items.map key).eraseDups := by
  induction items using List.reverseRecOn with
  | nil => rfl
  | append_singleton items item ih =>
    rw [List.foldl_append, List.foldl_cons, List.foldl_nil, h, ih, List.map_append, List.map_singleton,
      eraseDups_concat]

/-! ### Entries by their keys -/

/-- Under distinct names that cover all keys, each entry is found once. -/
theorem perm_flatMap_filter : ∀ {names : List κ} {entries : List (κ × α)}, names.Nodup →
    (∀ entry ∈ entries, entry.1 ∈ names) →
      (names.flatMap fun name => entries.filter (·.1 = name)).Perm entries
  | [], entries, _, hcover => by
    have hnone : entries = [] := List.eq_nil_iff_forall_not_mem.2 fun entry hmem =>
      List.not_mem_nil (hcover entry hmem)
    rw [hnone]
    rfl
  | name :: names, entries, hnodup, hcover => by
    obtain ⟨hname, hnames⟩ := List.nodup_cons.1 hnodup
    let others := entries.filter fun entry => !decide (entry.1 = name)
    have hothers : (names.flatMap fun other => entries.filter (·.1 = other))
        = names.flatMap fun other => others.filter (·.1 = other) := by
      refine List.flatMap_congr fun other hother => ?_
      rw [List.filter_filter]
      refine List.filter_congr fun entry _ => ?_
      by_cases he : entry.1 = other
      · have hne : other ≠ name := fun hsame => hname (hsame ▸ hother)
        simp [he, hne]
      · simp [he]
    have hcovered : ∀ entry ∈ others, entry.1 ∈ names := fun entry hmem => by
      obtain ⟨hmem, hne⟩ := List.mem_filter.1 hmem
      exact (List.mem_cons.1 (hcover entry hmem)).resolve_left (by simpa using hne)
    rw [List.flatMap_cons, hothers]
    exact ((perm_flatMap_filter hnames hcovered).append_left _).trans (List.filter_append_perm _ entries)

end Catalog.Keyed
