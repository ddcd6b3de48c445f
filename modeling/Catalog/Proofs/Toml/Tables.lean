import Catalog.Keyed
import Catalog.Toml.Document

/-!
The tables in a value. A property of key lists is asked of every table at any depth; the two that
matter are that no key stands twice, and that none is the mark of date-times. Without the mark,
replacing the marked tables changes nothing, and neither does it a second time.
-/

namespace Catalog.Toml

namespace Value

mutual

/-- Whether the keys of every table in a value have a property. -/
def EveryTable (p : List String → Prop) : Value → Prop
  | array items => EveryItem p items
  | table entries => p (Keyed.keys entries) ∧ EveryEntry p entries
  | _ => True

/-- Whether the keys of every table in the items have a property. -/
def EveryItem (p : List String → Prop) : List Value → Prop
  | [] => True
  | item :: rest => item.EveryTable p ∧ EveryItem p rest

/-- Whether the keys of every table in the values of the entries have a property. -/
def EveryEntry (p : List String → Prop) : List (String × Value) → Prop
  | [] => True
  | (_, value) :: rest => value.EveryTable p ∧ EveryEntry p rest

end

/-- No table has a key twice. -/
abbrev Distinct : Value → Prop :=
  EveryTable List.Nodup

/-- No table has the key that marks date-times. -/
abbrev Unmarked : Value → Prop :=
  EveryTable (datetimeKey ∉ ·)

variable {p : List String → Prop}

theorem everyItem_iff (items : List Value) :
    EveryItem p items ↔ ∀ item ∈ items, item.EveryTable p := by
  induction items with
  | nil => simp [EveryItem]
  | cons item rest ih => simp [EveryItem, ih]

theorem everyEntry_iff (entries : Table) :
    EveryEntry p entries ↔ ∀ entry ∈ entries, entry.2.EveryTable p := by
  induction entries with
  | nil => simp [EveryEntry]
  | cons entry rest ih => simp [EveryEntry, ih]

theorem everyTable_array {items : List Value} :
    (array items).EveryTable p ↔ ∀ item ∈ items, item.EveryTable p := by
  rw [EveryTable, everyItem_iff]

theorem everyTable_table {entries : Table} :
    (table entries).EveryTable p
      ↔ p (Keyed.keys entries) ∧ ∀ entry ∈ entries, entry.2.EveryTable p := by
  rw [EveryTable, everyEntry_iff]

theorem everyTable_of_get? {entries : Table} (h : (table entries).EveryTable p) {key : String}
    {value : Value} (hget : Keyed.get? entries key = some value) : value.EveryTable p :=
  (everyTable_table.1 h).2 _ (Keyed.mem_of_get? hget)

theorem everyTable_of_getElem? {items : List Value} (h : (array items).EveryTable p) {i : Nat}
    {item : Value} (hget : items[i]? = some item) : item.EveryTable p :=
  everyTable_array.1 h _ (List.mem_of_getElem? hget)

/-! ### Values without marks -/

theorem unmarked_of_perm {entries others : Table} (h : (table entries).Unmarked)
    (hperm : entries.Perm others) : (table others).Unmarked := by
  obtain ⟨hkeys, hall⟩ := everyTable_table.1 h
  refine everyTable_table.2 ⟨?_, fun entry hmem => hall entry (hperm.mem_iff.2 hmem)⟩
  intro hmem
  exact hkeys ((hperm.map (·.1)).mem_iff.2 hmem)

theorem mark?_eq_none {entries : Table} (h : datetimeKey ∉ Keyed.keys entries) :
    mark? entries = none := by
  cases entries with
  | nil => rfl
  | cons entry rest =>
    have hne : entry.1 ≠ datetimeKey := fun he => h (by simp [Keyed.keys, he])
    simp [mark?, hne]

mutual

theorem resolved?_of_unmarked : ∀ {value : Value}, value.Unmarked → value.resolved? = some value
  | string _, _ => rfl
  | integer _, _ => rfl
  | float _, _ => rfl
  | boolean _, _ => rfl
  | datetime _, _ => rfl
  | array items, h => by
    rw [Unmarked, EveryTable] at h
    simp [resolved?, resolvedItems?_of_unmarked h]
  | table entries, h => by
    rw [Unmarked, EveryTable] at h
    simp [resolved?, mark?_eq_none h.1, resolvedEntries?_of_unmarked h.2]

theorem resolvedItems?_of_unmarked : ∀ {items : List Value}, EveryItem (datetimeKey ∉ ·) items →
    resolvedItems? items = some items
  | [], _ => rfl
  | item :: rest, h => by
    rw [EveryItem] at h
    simp [resolvedItems?, resolved?_of_unmarked h.1, resolvedItems?_of_unmarked h.2]

theorem resolvedEntries?_of_unmarked : ∀ {entries : Table},
    EveryEntry (datetimeKey ∉ ·) entries → resolvedEntries? entries = some entries
  | [], _ => rfl
  | (key, value) :: rest, h => by
    rw [EveryEntry] at h
    simp [resolvedEntries?, resolved?_of_unmarked h.1, resolvedEntries?_of_unmarked h.2]

end

/-! ### Replacing marked tables -/

theorem resolvedItems?_cons_eq_some {item : Value} {rest others : List Value} :
    resolvedItems? (item :: rest) = some others
      ↔ ∃ first later, item.resolved? = some first ∧ resolvedItems? rest = some later
        ∧ first :: later = others := by
  simp [resolvedItems?, Option.bind_eq_some_iff]

theorem resolvedEntries?_cons_eq_some {key : String} {value : Value} {rest others : Table} :
    resolvedEntries? ((key, value) :: rest) = some others
      ↔ ∃ first later, value.resolved? = some first ∧ resolvedEntries? rest = some later
        ∧ (key, first) :: later = others := by
  simp [resolvedEntries?, Option.bind_eq_some_iff]

/-- The keys stay, so a table does not become a marked one. -/
theorem mark?_of_resolvedEntries? {entries others : Table}
    (h : resolvedEntries? entries = some others) (hmark : mark? entries = none) :
    mark? others = none := by
  cases entries with
  | nil =>
    cases h
    rfl
  | cons entry rest =>
    obtain ⟨value, later, -, -, rfl⟩ := resolvedEntries?_cons_eq_some.1 h
    simpa [mark?] using hmark

mutual

theorem resolved?_resolved? : ∀ {value other : Value}, value.resolved? = some other →
    other.resolved? = some other
  | string _, _, h | integer _, _, h | float _, _, h | boolean _, _, h | datetime _, _, h => by
    cases h
    rfl
  | array items, other, h => by
    obtain ⟨others, hothers, rfl⟩ := Option.map_eq_some_iff.1 h
    rw [resolved?, resolvedItems?_resolvedItems? hothers, Option.map_some]
  | table entries, other, h => by
    rw [resolved?] at h
    split at h
    · obtain ⟨datetime, -, rfl⟩ := Option.map_eq_some_iff.1 h
      rfl
    next hmark =>
      obtain ⟨others, hothers, rfl⟩ := Option.map_eq_some_iff.1 h
      rw [resolved?, mark?_of_resolvedEntries? hothers hmark]
      simp only [resolvedEntries?_resolvedEntries? hothers, Option.map_some]

theorem resolvedItems?_resolvedItems? : ∀ {items others : List Value},
    resolvedItems? items = some others → resolvedItems? others = some others
  | [], _, h => by
    cases h
    rfl
  | item :: rest, others, h => by
    obtain ⟨first, later, hfirst, hlater, rfl⟩ := resolvedItems?_cons_eq_some.1 h
    exact resolvedItems?_cons_eq_some.2
      ⟨first, later, resolved?_resolved? hfirst, resolvedItems?_resolvedItems? hlater, rfl⟩

theorem resolvedEntries?_resolvedEntries? : ∀ {entries others : Table},
    resolvedEntries? entries = some others → resolvedEntries? others = some others
  | [], _, h => by
    cases h
    rfl
  | (key, value) :: rest, others, h => by
    obtain ⟨first, later, hfirst, hlater, rfl⟩ := resolvedEntries?_cons_eq_some.1 h
    exact resolvedEntries?_cons_eq_some.2
      ⟨first, later, resolved?_resolved? hfirst, resolvedEntries?_resolvedEntries? hlater, rfl⟩

end

theorem isSome_resolved?_of_mem : ∀ {items others : List Value}, resolvedItems? items = some others →
    ∀ item ∈ items, item.resolved?.isSome
  | [], _, _, _, hmem => by cases hmem
  | first :: rest, others, h, item, hmem => by
    obtain ⟨resolved, later, hfirst, hlater, -⟩ := resolvedItems?_cons_eq_some.1 h
    rcases List.mem_cons.1 hmem with rfl | hmem
    · exact Option.isSome_of_eq_some hfirst
    · exact isSome_resolved?_of_mem hlater item hmem

end Value

/-- The keys of the entries themselves do not matter. -/
theorem resolve_of_unmarked {entries : Table} (h : ∀ entry ∈ entries, entry.2.Unmarked) :
    resolve entries = .ok entries := by
  rw [resolve, Value.resolvedEntries?_of_unmarked ((Value.everyEntry_iff entries).2 h)]

end Catalog.Toml
