import Catalog.Proofs.Keyed
import Catalog.Proofs.Tool.Source

/-!
Fields by their order. The readers of tools and backends take an array in place of a table, with its items
as the fields in order. Main statement: a value is read as the table of the fields that it has; a value
without such a table is a tool without anything, or a backend with a blank link.
-/

namespace Catalog.Tool

open Toml (Value)

variable {value item : Value} {entries : Toml.Table} {items : List Value} {source : Source}

/-- The names of the fields of a backend. -/
def backendFieldNames : List String :=
  ["full", "platforms", "options"]

/-- The table of the fields that a value has: a table itself, or the items of an array under the names in
order, as long as there is a name for each. -/
def fieldsIn? (names : List String) : Value → Option Toml.Table
  | .table entries => some entries
  | .array items => if items.length ≤ names.length then some (names.zip items) else none
  | _ => none

/-! ### Tools -/

theorem Source.read?_eq_bind (value : Value) :
    Source.read? value = (fieldsIn? fieldNames value).bind fun entries => Source.read? (.table entries) := by
  cases value with
  | table entries => rfl
  | array items =>
    have hget {i : Nat} {name : String} (hname : fieldNames[i]? = some name) :
        Keyed.get? (fieldNames.zip items) name = items[i]? :=
      Keyed.get?_zip (by decide) hname items
    rw [Source.read?, fieldsIn?, show fieldNames.length = 4 from rfl]
    split
    · rw [Option.bind_some, Source.read?, hget (i := 0) rfl, hget (i := 1) rfl, hget (i := 2) rfl,
        hget (i := 3) rfl]
    · rfl
  | string | integer | float | boolean | datetime => rfl

/-- A tool is read from the fields that its value has; without such fields it has nothing. -/
theorem Source.ofValue_eq_elim (value : Value) :
    Source.ofValue value = (fieldsIn? fieldNames value).elim {} Source.ofTable := by
  rw [Source.ofValue, Source.read?_eq_bind]
  cases fieldsIn? fieldNames value <;> rfl

/-! ### Backends -/

theorem BackendEntry.ofFields?_eq_bind (item : Value) :
    BackendEntry.ofFields? item
      = (fieldsIn? backendFieldNames item).bind fun entries => BackendEntry.ofFields? (.table entries) := by
  cases item with
  | table entries => rfl
  | array items =>
    have hget {i : Nat} {name : String} (hname : backendFieldNames[i]? = some name) :
        Keyed.get? (backendFieldNames.zip items) name = items[i]? :=
      Keyed.get?_zip (by decide) hname items
    rw [BackendEntry.ofFields?, fieldsIn?, show backendFieldNames.length = 3 from rfl]
    split
    · rw [Option.bind_some, BackendEntry.ofFields?, hget (i := 0) rfl, hget (i := 1) rfl,
        hget (i := 2) rfl]
    · rfl
  | string | integer | float | boolean | datetime => rfl

theorem Link.ofEntry_malformed : Link.ofEntry .malformed = ⟨"", "", []⟩ := by decide

/-- An item that is no text has the link of its fields, and a blank one if they make no backend. -/
theorem Link.ofItem_of_no_text (h : item.text? = none) :
    Link.ofItem item = (BackendEntry.ofFields? item).elim ⟨"", "", []⟩ Link.ofEntry := by
  rw [Link.ofItem, BackendEntry.read?, h]
  cases BackendEntry.ofFields? item with
  | some entry => rfl
  | none => cases item.resolved? <;> exact Link.ofEntry_malformed

theorem Link.ofItem_eq_elim (h : item.text? = none) :
    Link.ofItem item
      = (fieldsIn? backendFieldNames item).elim ⟨"", "", []⟩ fun fields => .ofItem (.table fields) := by
  rw [Link.ofItem_of_no_text h, BackendEntry.ofFields?_eq_bind]
  cases fieldsIn? backendFieldNames item with
  | none => rfl
  | some fields =>
    have htable : (Value.table fields).text? = none := rfl
    exact (Link.ofItem_of_no_text htable).symm

/-! ### The backends of a tool -/

/-- What could be read before can be read as a backend. -/
theorem isSome_read?_of_resolved? (h : item.resolved?.isSome) : (BackendEntry.read? item).isSome := by
  obtain ⟨other, hother⟩ := Option.isSome_iff_exists.1 h
  rw [BackendEntry.read?, hother]
  cases item.text? <;> cases BackendEntry.ofFields? item <;> rfl

theorem isSome_resolved?_of_field? {field : Option Value} (h : field? field = some (some (.array items))) :
    ∀ item ∈ items, item.resolved?.isSome := by
  cases field with
  | none => cases h
  | some value =>
    have hvalue : value.resolved? = some (.array items) := by simpa [field?] using h
    have hagain := Value.resolved?_resolved? hvalue
    rw [Value.resolved?] at hagain
    obtain ⟨others, hothers, -⟩ := Option.map_eq_some_iff.1 hagain
    exact Value.isSome_resolved?_of_mem hothers

theorem backends_of_read? (h : Source.read? (.table entries) = some source)
    (hbackends : field? (Keyed.get? entries "backends") = some (some (.array items))) :
    source.backends.map Link.ofEntry = items.map Link.ofItem := by
  simp only [Source.read?, Source.ofFields?, hbackends, Option.bind_eq_bind, Option.bind_eq_some_iff,
    Option.pure_def, Option.some.injEq] at h
  obtain ⟨aliases, -, backends, rfl, os, -, description, -, rfl⟩ := h
  exact links_readable fun item hmem =>
    isSome_read?_of_resolved? (isSome_resolved?_of_field? hbackends item hmem)

/-- A tool is read from the fields that its value has, and without such fields it has nothing. If it can be
read and has an array of backends, each item of the array gives one link. An item that is no text has the
link of the fields that it has, and without such fields it has a blank link. -/
theorem read_by_fields (name : String) (value : Value) :
    Source.ofValue value = (fieldsIn? fieldNames value).elim {} Source.ofTable
      ∧ (∀ entries source items, fieldsIn? fieldNames value = some entries →
          Source.read? value = some source →
          field? (Keyed.get? entries "backends") = some (some (.array items)) →
            (Record.build name (Source.ofValue value)).backends = items.map Link.ofItem)
      ∧ ∀ item : Value, item.text? = none → Link.ofItem item
          = (fieldsIn? backendFieldNames item).elim ⟨"", "", []⟩ fun fields => .ofItem (.table fields) := by
  refine ⟨Source.ofValue_eq_elim value, ?_, fun item => Link.ofItem_eq_elim⟩
  intro entries source items hentries hsource hbackends
  have htable : Source.read? (.table entries) = some source := by
    rw [← hsource, Source.read?_eq_bind value, hentries, Option.bind_some]
  rw [Record.build, Source.ofValue, hsource, Option.getD_some]
  exact backends_of_read? htable hbackends

/-- A tool as an array of its names and its backends. One of the backends is an array as well. -/
def listedTool : Value :=
  .array [.array [.string "rg"], .array [.string "cargo:ripgrep", .array [.string "npm:rg"], .integer 42]]

theorem read_by_fields_listedTool :
    Source.ofValue listedTool
        = Source.ofTable [("aliases", .array [.string "rg"]),
          ("backends", .array [.string "cargo:ripgrep", .array [.string "npm:rg"], .integer 42])]
      ∧ (Record.build "rg" (Source.ofValue listedTool)).backends
        = [Link.ofItem (.string "cargo:ripgrep"), Link.ofItem (.array [.string "npm:rg"]),
          Link.ofItem (.integer 42)]
      ∧ Link.ofItem (.array [.string "npm:rg"]) = Link.ofItem (.table [("full", .string "npm:rg")])
      ∧ Link.ofItem (.integer 42) = ⟨"", "", []⟩ := by
  obtain ⟨hsource, hbackends, hitem⟩ := read_by_fields "rg" listedTool
  exact ⟨hsource, hbackends _ _ _ rfl rfl rfl, hitem _ rfl, hitem _ rfl⟩

/-- A tool and a backend that are no tables are read all the same. -/
theorem read_listedFields :
    Source.ofValue (.array [.array [.string "ripgrep"], .array [.string "cargo:ripgrep"]])
        = { aliases := ["ripgrep"], backends := [.descriptor "cargo:ripgrep"] }
      ∧ Source.ofValue (.array [.array [.string "ripgrep"], .array [.string "cargo:ripgrep"]]) ≠ {}
      ∧ Link.ofItem (.array [.string "cargo:x"]) = ⟨"cargo:x", "https://crates.io/crates/x", []⟩
      ∧ Link.ofItem (.array [.string "cargo:x"]) ≠ ⟨"", "", []⟩ := by
  decide +kernel

end Catalog.Tool
