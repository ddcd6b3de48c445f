/-!
Association lists in insertion order. `put` gives a new key the last place and lets a key that is
already there keep its place, so the keys of a list that is built by `put` are pairwise distinct.
-/

namespace Catalog.Keyed

variable {κ α : Type}

/-- The keys in order. -/
def keys (entries : List (κ × α)) : List κ :=
  entries.map (·.1)

/-- The value at a key. -/
def get? [DecidableEq κ] : List (κ × α) → κ → Option α
  | [], _ => none
  | (name, value) :: rest, key => if name = key then some value else get? rest key

/-- Whether a key is there. -/
def has [DecidableEq κ] (entries : List (κ × α)) (key : κ) : Bool :=
  (get? entries key).isSome

/-- Sets the value at a key, in place if the key is there and else at the end. -/
def put [DecidableEq κ] : List (κ × α) → κ → α → List (κ × α)
  | [], key, value => [(key, value)]
  | (name, old) :: rest, key, value =>
    if name = key then (key, value) :: rest else (name, old) :: put rest key value

/-- The entries put one after the other. -/
def ofPairs [DecidableEq κ] (pairs : List (κ × α)) : List (κ × α) :=
  pairs.foldl (fun entries pair => put entries pair.1 pair.2) []

/-- The entries without a key. -/
def erase [DecidableEq κ] (entries : List (κ × α)) (key : κ) : List (κ × α) :=
  entries.filter (·.1 ≠ key)

variable [DecidableEq κ]

@[simp] theorem get?_put_self (entries : List (κ × α)) (key : κ) (value : α) :
    get? (put entries key value) key = some value := by
  induction entries with
  | nil => simp [put, get?]
  | cons head rest ih => by_cases h : head.1 = key <;> simp [put, get?, h, ih]

theorem get?_put_of_ne {key other : κ} (h : key ≠ other) (entries : List (κ × α))
    (value : α) : get? (put entries key value) other = get? entries other := by
  induction entries with
  | nil => simp [put, get?, h]
  | cons head rest ih =>
    by_cases hk : head.1 = key
    · simp [put, get?, hk, h]
    · rw [put, if_neg hk, get?, get?, ih]

/-- Of two lists of entries, the first one counts. -/
theorem get?_append (entries others : List (κ × α)) (key : κ) :
    get? (entries ++ others) key = (get? entries key).or (get? others key) := by
  induction entries with
  | nil => rfl
  | cons head rest ih =>
    by_cases h : head.1 = key
    · simp [get?, h]
    · simp [get?, h, ih]

theorem keys_put (entries : List (κ × α)) (key : κ) (value : α) :
    keys (put entries key value)
      = if key ∈ keys entries then keys entries else keys entries ++ [key] := by
  induction entries with
  | nil => simp [put, keys]
  | cons head rest ih =>
    by_cases h : head.1 = key
    · simp [put, keys, h]
    · have hk : ¬ key = head.1 := fun e => h e.symm
      simp only [put, h, if_false, keys, List.map_cons, List.mem_cons, hk, false_or] at ih ⊢
      rw [ih]
      by_cases hm : key ∈ List.map (·.1) rest <;> simp [hm]

/-- A key that is added only if it is not there stands once. -/
theorem nodup_extended {names : List κ} (h : names.Nodup) (key : κ) :
    (if key ∈ names then names else names ++ [key]).Nodup := by
  split
  · exact h
  · rename_i hk
    refine List.nodup_append.2 ⟨h, by simp, ?_⟩
    intro a ha b hb hab
    rw [List.mem_singleton] at hb
    exact hk (hb ▸ hab ▸ ha)

theorem nodup_keys_put {entries : List (κ × α)} (h : (keys entries).Nodup) (key : κ)
    (value : α) : (keys (put entries key value)).Nodup := by
  rw [keys_put]
  exact nodup_extended h key

theorem get?_eq_none_iff {entries : List (κ × α)} {key : κ} :
    get? entries key = none ↔ key ∉ keys entries := by
  induction entries with
  | nil => simp [get?, keys]
  | cons head rest ih =>
    by_cases h : head.1 = key
    · simp [get?, keys, h]
    · have hk : ¬ key = head.1 := fun e => h e.symm
      simp only [get?, h, if_false, keys, List.map_cons, List.mem_cons, hk, false_or]
      exact ih

theorem mem_of_get? {entries : List (κ × α)} {key : κ} {value : α}
    (h : get? entries key = some value) : (key, value) ∈ entries := by
  induction entries with
  | nil => cases h
  | cons head rest ih =>
    rw [get?] at h
    split at h
    · rename_i hk
      cases h
      exact hk ▸ List.mem_cons_self
    · exact List.mem_cons_of_mem _ (ih h)

/-- With distinct keys, every entry is the one that its key leads to. -/
theorem get?_of_mem {entries : List (κ × α)} (h : (keys entries).Nodup) {key : κ} {value : α}
    (hmem : (key, value) ∈ entries) : get? entries key = some value := by
  induction entries with
  | nil => cases hmem
  | cons head rest ih =>
    obtain ⟨hhead, hrest⟩ := List.nodup_cons.1 h
    rcases List.mem_cons.1 hmem with rfl | hmem
    · simp [get?]
    · have hne : head.1 ≠ key := by
        rintro rfl
        exact hhead (List.mem_map_of_mem (f := (·.1)) hmem)
      rw [get?, if_neg hne]
      exact ih hrest hmem

theorem has_iff {entries : List (κ × α)} {key : κ} :
    has entries key = true ↔ key ∈ keys entries := by
  rw [has, Option.isSome_iff_ne_none, ne_eq, get?_eq_none_iff, Classical.not_not]

/-- Each entry has a related value under its key among others exactly if all its keys are there, and lead to
related values. -/
theorem forall_exists_get?_iff {β : Type} {R : α → β → Prop} {entries : List (κ × α)}
    {others : List (κ × β)} :
    (∀ entry ∈ entries, ∃ other, get? others entry.1 = some other ∧ R entry.2 other)
      ↔ (∀ key ∈ keys entries, key ∈ keys others)
        ∧ ∀ entry ∈ entries, ∀ other, get? others entry.1 = some other → R entry.2 other := by
  constructor
  · refine fun hall => ⟨fun key hkey => ?_, fun entry hentry other hother => ?_⟩
    · obtain ⟨entry, hentry, rfl⟩ := List.mem_map.1 hkey
      obtain ⟨other, hother, -⟩ := hall entry hentry
      exact has_iff.1 (Option.isSome_of_eq_some hother)
    · obtain ⟨found, hfound, hrelated⟩ := hall entry hentry
      rw [hother] at hfound
      cases hfound
      exact hrelated
  · intro ⟨hkeys, hvalues⟩ entry hentry
    have hkey : entry.1 ∈ keys others := hkeys _ (List.mem_map_of_mem hentry)
    obtain ⟨other, hother⟩ := Option.isSome_iff_exists.1 (has_iff.2 hkey)
    exact ⟨other, hother, hvalues entry hentry other hother⟩

/-- A key that is there keeps its place. -/
theorem keys_put_of_get? {entries : List (κ × α)} {key : κ} {old : α} (h : get? entries key = some old)
    (new : α) : keys (put entries key new) = keys entries := by
  have hmem : key ∈ keys entries := has_iff.1 (Option.isSome_of_eq_some h)
  rw [keys_put, if_pos hmem]

/-- Putting what is there already changes nothing. -/
theorem put_eq_self {entries : List (κ × α)} {key : κ} {value : α}
    (h : get? entries key = some value) : put entries key value = entries := by
  induction entries with
  | nil => cases h
  | cons head rest ih =>
    rw [get?] at h
    rw [put]
    split
    · rename_i hkey
      rw [if_pos hkey] at h
      cases h
      rw [← hkey]
    · rename_i hkey
      rw [if_neg hkey] at h
      rw [ih h]

theorem put_put (entries : List (κ × α)) (key : κ) (old new : α) :
    put (put entries key old) key new = put entries key new := by
  induction entries with
  | nil => simp [put]
  | cons head rest ih =>
    by_cases h : head.1 = key
    · simp [put, h]
    · simp [put, h, ih]

theorem mem_put {entries : List (κ × α)} {key : κ} {value : α} {pair : κ × α}
    (h : pair ∈ put entries key value) : pair ∈ entries ∨ pair = (key, value) := by
  induction entries with
  | nil => exact .inr (List.mem_singleton.1 h)
  | cons head rest ih =>
    rw [put] at h
    split at h
    · obtain h | h := List.mem_cons.1 h
      · exact .inr h
      · exact .inl (List.mem_cons_of_mem _ h)
    · obtain rfl | h := List.mem_cons.1 h
      · exact .inl List.mem_cons_self
      · exact (ih h).imp_left (List.mem_cons_of_mem _)

theorem keys_erase (entries : List (κ × α)) (key : κ) :
    keys (erase entries key) = (keys entries).filter (· ≠ key) := by
  rw [keys, keys, erase, List.filter_map]
  rfl

end Catalog.Keyed
