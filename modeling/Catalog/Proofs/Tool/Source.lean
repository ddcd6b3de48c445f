import Catalog.Proofs.Backend.Descriptor
import Catalog.Proofs.Toml.Tables
import Catalog.Tool.Record

/-!
Reading a tool is local. Main statement: the table of a tool can always be read, each field of its
record depends on the value under its own key alone, and each backend keeps its place whatever stands
beside it.
-/

namespace Catalog.Tool

open Backend (Descriptor)
open Toml (Value)

/-! ### Fields -/

theorem field?_of_unmarked {value : Option Value} (h : ∀ v ∈ value, v.Unmarked) :
    field? value = some value := by
  cases value with
  | none => rfl
  | some v =>
    have hv := Value.resolved?_of_unmarked (h v rfl)
    simp [field?, hv]

theorem structured?_of_unmarked {full platforms options : Option Value}
    (hplatforms : ∀ v ∈ platforms, v.Unmarked) (hoptions : ∀ v ∈ options, v.Unmarked) :
    structured? full platforms options
      = (full.bind Value.text?).map fun raw =>
          .structured raw (texts platforms) (optionTable options) := by
  rw [structured?, field?_of_unmarked hplatforms, field?_of_unmarked hoptions]
  cases full.bind Value.text? <;> rfl

/-! ### Backends -/

/-- The text that an item gives as its descriptor: itself, or the first of its fields. -/
def descriptorText? : Value → Option String
  | .table entries => (Keyed.get? entries "full").bind Value.text?
  | .array items => if items.length ≤ 3 then items[0]?.bind Value.text? else none
  | value => value.text?

/-- Any item can be read, and the entry has the text that the item gives as its descriptor. -/
theorem exists_read?_of_unmarked {item : Value} (h : item.Unmarked) :
    ∃ entry, BackendEntry.read? item = some entry
      ∧ entry.raw = (descriptorText? item).getD "" := by
  have hmalformed := Value.resolved?_of_unmarked h
  cases item with
  | string _ => exact ⟨_, rfl, rfl⟩
  | integer _ => exact ⟨_, rfl, rfl⟩
  | float _ => exact ⟨_, rfl, rfl⟩
  | boolean _ => exact ⟨_, rfl, rfl⟩
  | datetime _ => exact ⟨_, rfl, rfl⟩
  | array items =>
    have hitem (i : Nat) : ∀ v ∈ items[i]?, Value.Unmarked v := fun v hv =>
      Value.everyTable_of_getElem? h hv
    simp only [BackendEntry.read?, Value.text?, BackendEntry.ofFields?, hmalformed,
      descriptorText?, structured?_of_unmarked (hitem 1) (hitem 2)]
    by_cases hlen : items.length ≤ 3
    · cases htext : items[0]?.bind Value.text? <;> simp [hlen, BackendEntry.raw]
    · simp [hlen, BackendEntry.raw]
  | table entries =>
    have hfield (key : String) : ∀ v ∈ Keyed.get? entries key, Value.Unmarked v := fun v hv =>
      Value.everyTable_of_get? h hv
    simp only [BackendEntry.read?, Value.text?, BackendEntry.ofFields?, hmalformed,
      descriptorText?, structured?_of_unmarked (hfield "platforms") (hfield "options")]
    cases htext : (Keyed.get? entries "full").bind Value.text? <;> simp [BackendEntry.raw]

/-- The link of an item. -/
def Link.ofItem (item : Value) : Link :=
  .ofEntry ((BackendEntry.read? item).getD .malformed)

/-- No item that can be read is left out. -/
theorem links_readable : ∀ {items : List Value}, (∀ item ∈ items, (BackendEntry.read? item).isSome) →
    (readable BackendEntry.read? (some (.array items))).map Link.ofEntry = items.map Link.ofItem
  | [], _ => rfl
  | item :: rest, h => by
    obtain ⟨hitem, hrest⟩ := List.forall_mem_cons.1 h
    obtain ⟨entry, hentry⟩ := Option.isSome_iff_exists.1 hitem
    have ih := links_readable hrest
    simp only [readable] at ih ⊢
    rw [List.filterMap_cons, hentry, List.map_cons, List.map_cons, ih, Link.ofItem, hentry]
    rfl

theorem readable_backends {items : List Value} (h : ∀ item ∈ items, item.Unmarked) :
    (readable BackendEntry.read? (some (.array items))).map Link.ofEntry = items.map Link.ofItem :=
  links_readable fun item hmem =>
    have ⟨_, hentry, _⟩ := exists_read?_of_unmarked (h item hmem)
    Option.isSome_of_eq_some hentry

/-- The options beside a descriptor do not touch its tag and slug. -/
theorem BackendEntry.spec_parse (entry : BackendEntry) :
    entry.spec.tag = (Descriptor.parse entry.raw).tag
      ∧ entry.spec.slug = (Descriptor.parse entry.raw).slug := by
  cases entry <;> exact ⟨rfl, rfl⟩

theorem Link.ofEntry_of_not_isParsed {entry : BackendEntry}
    (h : (Descriptor.parse entry.raw).isParsed = false) :
    (Link.ofEntry entry).name = "" ∧ (Link.ofEntry entry).url = "" := by
  have hno : ¬ ∃ tag slug clause, Descriptor.Splits entry.raw.toList tag slug clause := by
    rw [← Descriptor.isParsed_iff, h]
    decide
  obtain ⟨htag, hslug⟩ := entry.spec_parse
  rw [Descriptor.parse_of_not_splits hno] at htag hslug
  constructor
  · simp [Link.ofEntry, Descriptor.full, htag, hslug]
  · simp [Link.ofEntry, Descriptor.url, Backend.resolve, Backend.Kind.url, hslug]

/-- An item without a text that parses has a link without a name and a page. -/
theorem Link.ofItem_blank {item : Value} (h : item.Unmarked)
    (hno : ¬ ∃ raw, descriptorText? item = some raw ∧ (Descriptor.parse raw).isParsed = true) :
    (Link.ofItem item).name = "" ∧ (Link.ofItem item).url = "" := by
  obtain ⟨entry, hentry, hraw⟩ := exists_read?_of_unmarked h
  rw [Link.ofItem, hentry, Option.getD_some]
  refine Link.ofEntry_of_not_isParsed ?_
  rw [hraw]
  cases htext : descriptorText? item with
  | none => decide
  | some raw =>
    rw [Option.getD_some, Bool.eq_false_iff]
    exact fun hparsed => hno ⟨raw, htext, hparsed⟩

/-! ### Tools -/

/-- A table can be read, field by field. -/
theorem Source.read?_of_unmarked {entries : Toml.Table} (h : (Value.table entries).Unmarked) :
    Source.read? (.table entries)
      = some (Source.ofFields (Keyed.get? entries "aliases") (Keyed.get? entries "backends")
          (Keyed.get? entries "os") ((Keyed.get? entries "description").bind Value.text?)) := by
  have hfield (key : String) : field? (Keyed.get? entries key) = some (Keyed.get? entries key) :=
    field?_of_unmarked fun v hv => Value.everyTable_of_get? h hv
  simp [Source.read?, Source.ofFields?, hfield]

theorem Source.ofTable_of_unmarked {entries : Toml.Table} (h : (Value.table entries).Unmarked) :
    Source.ofTable entries
      = Source.ofFields (Keyed.get? entries "aliases") (Keyed.get? entries "backends")
          (Keyed.get? entries "os") ((Keyed.get? entries "description").bind Value.text?) := by
  rw [Source.ofTable, Source.ofValue, Source.read?_of_unmarked h, Option.getD_some]

/-- Reading the table of a tool never falls back to a tool without anything; each field of the record
depends on the value under its own key alone; and the items of the backends give one link each, in
their order, which is blank if the item has no descriptor that parses. -/
theorem record_fieldwise (name : String) {entries : Toml.Table}
    (h : (Value.table entries).Unmarked) :
    Source.read? (.table entries) = some (Source.ofTable entries)
      ∧ (∀ others : Toml.Table, (Value.table others).Unmarked →
          let record := Record.build name (Source.ofTable entries)
          let other := Record.build name (Source.ofTable others)
          (Keyed.get? others "aliases" = Keyed.get? entries "aliases" →
            other.aliases = record.aliases)
          ∧ (Keyed.get? others "backends" = Keyed.get? entries "backends" →
            other.backends = record.backends)
          ∧ (Keyed.get? others "os" = Keyed.get? entries "os" → other.os = record.os)
          ∧ (Keyed.get? others "description" = Keyed.get? entries "description" →
            other.description = record.description))
      ∧ (∀ items, Keyed.get? entries "backends" = some (.array items) →
          (Record.build name (Source.ofTable entries)).backends = items.map Link.ofItem
          ∧ ∀ item ∈ items,
            (¬ ∃ raw, descriptorText? item = some raw ∧ (Descriptor.parse raw).isParsed = true) →
              (Link.ofItem item).name = "" ∧ (Link.ofItem item).url = "") := by
  have hsource := Source.ofTable_of_unmarked h
  refine ⟨by rw [Source.read?_of_unmarked h, hsource], ?_, ?_⟩
  · intro others hothers
    rw [hsource, Source.ofTable_of_unmarked hothers]
    simp only [Record.build, Source.ofFields]
    refine ⟨?_, ?_, ?_, ?_⟩ <;> intro hsame <;> rw [hsame]
  · intro items hitems
    have hall := Value.everyTable_array.1 (Value.everyTable_of_get? h hitems)
    refine ⟨?_, fun item hitem => Link.ofItem_blank (hall item hitem)⟩
    rw [hsource, hitems]
    exact readable_backends hall

/-- A tool with a field of the wrong type, a field that no tool has, and two backends without a
descriptor that parses. -/
def mistypedTool : Toml.Table :=
  [("aliases", .integer 3), ("note", .boolean true),
    ("backends", .array [.string "garbage", .integer 42, .string "npm:bar"])]

theorem record_fieldwise_mistypedTool :
    (Value.table mistypedTool).Unmarked
      ∧ Source.read? (.table mistypedTool) = some (Source.ofTable mistypedTool)
      ∧ (Record.build "bar" (Source.ofTable (mistypedTool.drop 1))).backends
          = (Record.build "bar" (Source.ofTable mistypedTool)).backends
      ∧ (Record.build "bar" (Source.ofTable mistypedTool)).backends
          = [⟨"", "", []⟩, ⟨"", "", []⟩, ⟨"npm:bar", "https://www.npmjs.com/package/bar", []⟩] := by
  have hplain : (Value.table mistypedTool).Unmarked := by
    simp [mistypedTool, Value.EveryTable, Value.EveryEntry, Value.EveryItem, Keyed.keys,
      Toml.datetimeKey]
  have hrest : (Value.table (mistypedTool.drop 1)).Unmarked := by
    simp [mistypedTool, Value.EveryTable, Value.EveryEntry, Value.EveryItem, Keyed.keys,
      Toml.datetimeKey]
  obtain ⟨hread, hlocal, hbackends⟩ := record_fieldwise "bar" hplain
  obtain ⟨hlinks, -⟩ := hbackends _ rfl
  exact ⟨hplain, hread, (hlocal _ hrest).2.1 rfl, hlinks.trans (by decide +kernel)⟩

end Catalog.Tool
