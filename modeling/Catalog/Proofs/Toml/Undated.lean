import Catalog.Keyed
import Catalog.Toml.Value

/-!
Values whose date-times are replaced by their texts. The replacement goes value by value, does not
touch what reads as a text or what a value becomes as JSON, and has nothing left to do a second time.
-/

namespace Catalog.Toml.Value

theorem undatedItems_eq_map : ∀ items : List Value, undatedItems items = items.map undated
  | [] => rfl
  | item :: rest => by rw [undatedItems, undatedItems_eq_map rest, List.map_cons]

theorem undatedEntries_eq_map : ∀ entries : Table,
    undatedEntries entries = entries.map fun entry => (entry.1, entry.2.undated)
  | [] => rfl
  | (key, value) :: rest => by rw [undatedEntries, undatedEntries_eq_map rest, List.map_cons]

theorem exists_of_mem_undatedEntries {name : String} {value : Value} : ∀ {entries : Table},
    (name, value) ∈ undatedEntries entries → ∃ authored, (name, authored) ∈ entries
      ∧ value = authored.undated
  | [], h => by cases h
  | (key, authored) :: rest, h => by
    rw [undatedEntries] at h
    rcases List.mem_cons.1 h with h | h
    · cases h
      exact ⟨authored, List.mem_cons_self, rfl⟩
    · obtain ⟨authored, hmem, hvalue⟩ := exists_of_mem_undatedEntries h
      exact ⟨authored, List.mem_cons_of_mem _ hmem, hvalue⟩

theorem get?_undatedEntries (key : String) : ∀ entries : Table,
    Keyed.get? (undatedEntries entries) key = (Keyed.get? entries key).map undated
  | [] => rfl
  | (name, value) :: rest => by
    rw [undatedEntries, Keyed.get?, Keyed.get?]
    split
    · rfl
    · exact get?_undatedEntries key rest

/-- A field is read from an entry by itself. -/
theorem bind_get?_undatedEntries {α : Type} {read authored : Value → Option α}
    (h : ∀ value, read value.undated = authored value) (entries : Table) (key : String) :
    (Keyed.get? (undatedEntries entries) key).bind read = (Keyed.get? entries key).bind authored := by
  rw [get?_undatedEntries, Option.bind_map]
  exact congrArg _ (funext h)

/-- What is found entry by entry is found alike, if each entry gives the same. -/
theorem findSome?_undatedEntries {α : Type} {find : String × Value → Option α}
    (h : ∀ name value, find (name, value.undated) = find (name, value)) (entries : Table) :
    (undatedEntries entries).findSome? find = entries.findSome? find := by
  rw [undatedEntries_eq_map, List.findSome?_map]
  exact congrArg (entries.findSome? ·) (funext fun entry => h entry.1 entry.2)

/-- A date-time reads as its text anyway. -/
theorem text?_undated (value : Value) : value.undated.text? = value.text? := by
  cases value <;> rfl

/-- Messages call a date-time a text anyway. -/
theorem phrase_undated (value : Value) : value.undated.phrase = value.phrase := by
  cases value <;> rfl

/-- Only a table becomes a table. -/
theorem undated_eq_table {value : Value} {entries : Table} (h : value.undated = .table entries) :
    ∃ authored, value = .table authored ∧ entries = undatedEntries authored := by
  cases value with
  | table authored =>
    cases h
    exact ⟨authored, rfl, rfl⟩
  | string | integer | float | boolean | datetime | array => cases h

mutual

theorem undated_undated : ∀ value : Value, value.undated.undated = value.undated
  | string _ | integer _ | float _ | boolean _ | datetime _ => rfl
  | array items => by rw [undated, undated, undatedItems_undatedItems items]
  | table entries => by rw [undated, undated, undatedEntries_undatedEntries entries]

theorem undatedItems_undatedItems : ∀ items : List Value,
    undatedItems (undatedItems items) = undatedItems items
  | [] => rfl
  | item :: rest => by
    rw [undatedItems, undatedItems, undated_undated item, undatedItems_undatedItems rest]

theorem undatedEntries_undatedEntries : ∀ entries : Table,
    undatedEntries (undatedEntries entries) = undatedEntries entries
  | [] => rfl
  | (key, value) :: rest => by
    rw [undatedEntries, undatedEntries, undated_undated value, undatedEntries_undatedEntries rest]

end

mutual

theorem toJson_undated : ∀ value : Value, value.undated.toJson = value.toJson
  | string _ | integer _ | float _ | boolean _ | datetime _ => rfl
  | array items => by rw [undated, toJson, toJson, itemsToJson_undated items]
  | table entries => by rw [undated, toJson, toJson, entriesToJson_undated entries]

theorem itemsToJson_undated : ∀ items : List Value,
    itemsToJson (undatedItems items) = itemsToJson items
  | [] => rfl
  | item :: rest => by
    rw [undatedItems, itemsToJson, itemsToJson, toJson_undated item, itemsToJson_undated rest]

theorem entriesToJson_undated : ∀ entries : Table,
    entriesToJson (undatedEntries entries) = entriesToJson entries
  | [] => rfl
  | (key, value) :: rest => by
    rw [undatedEntries, entriesToJson, entriesToJson, toJson_undated value,
      entriesToJson_undated rest]

end

end Catalog.Toml.Value
