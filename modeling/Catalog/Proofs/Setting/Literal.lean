import Catalog.Proofs.Json.Soundness
import Catalog.Proofs.Setting.Rules
import Catalog.Proofs.Toml.Printable

/-!
The literal default of a setting beside its type. Main statement: it is consistent with the type shown
exactly if it was authored as a value of that type. Nothing asks for that: any other default in its place
is taken too, and changes nothing else of what the JSON schema shows.
-/

namespace Catalog.Setting

open Toml (Value Table)

/-- The JSON values that are consistent with a type as shown. -/
inductive Consistent : Shape → Json → Prop
  | string (text : String) : Consistent .string (.str text)
  | boolean (b : Bool) : Consistent .boolean (.bool b)
  | whole (n : Int) : Consistent .number (.int n)
  | float (x : Float) : Consistent .number (.float x)
  | strings {items : List Json} : (∀ item ∈ items, ∃ text, item = .str text) →
      Consistent .stringArray (.arr items)
  | object {members : List (String × Json)} : (∀ member ∈ members, ∃ text, member.2 = .str text) →
      Consistent .object (.obj members)
  | flag (b : Bool) : Consistent .booleanOrString (.bool b)
  | text (text : String) : Consistent .booleanOrString (.str text)

/-- The values that an author has to write for a type as shown. -/
inductive Suits : Shape → Value → Prop
  | string {value : Value} : IsText value → Suits .string value
  | boolean (b : Bool) : Suits .boolean (.boolean b)
  | whole (n : Int) : Suits .number (.integer n)
  | float {x : Float} : x.isFinite → Suits .number (.float x)
  | strings {items : List Value} : (∀ item ∈ items, IsText item) → Suits .stringArray (.array items)
  | object {entries : Table} : (∀ entry ∈ entries, IsText entry.2) → Suits .object (.table entries)
  | flag (b : Bool) : Suits .booleanOrString (.boolean b)
  | text {value : Value} : IsText value → Suits .booleanOrString value

/-! ### Types of values -/

/-- A value becomes a string if and only if it reads as a text. -/
theorem toJson_eq_str_iff {value : Value} : (∃ text, value.toJson = .str text) ↔ IsText value := by
  constructor
  · rintro ⟨text, htext⟩
    cases value with
    | string text => exact .string text
    | datetime datetime => exact .datetime datetime
    | float x =>
      rw [Value.toJson] at htext
      split at htext <;> cases htext
    | integer | boolean | array | table => cases htext
  · rintro (text | datetime)
    · exact ⟨text, rfl⟩
    · exact ⟨datetime.text, rfl⟩

theorem consistent_toJson {shape : Shape} {value : Value} (h : Suits shape value) :
    Consistent shape value.toJson := by
  cases h with
  | string htext =>
    obtain ⟨text, hjson⟩ := toJson_eq_str_iff.2 htext
    rw [hjson]
    exact .string text
  | boolean b => exact .boolean b
  | whole n => exact .whole n
  | float hfinite =>
    rw [Value.toJson, if_pos hfinite]
    exact .float _
  | strings hitems =>
    rw [Value.toJson, Value.itemsToJson_eq_map]
    refine .strings (List.forall_mem_map.2 fun item hitem => ?_)
    exact toJson_eq_str_iff.2 (hitems item hitem)
  | object hentries =>
    rw [Value.toJson, Value.entriesToJson_eq_map]
    refine .object (List.forall_mem_map.2 fun entry hentry => ?_)
    exact toJson_eq_str_iff.2 (hentries entry hentry)
  | flag b => exact .flag b
  | text htext =>
    obtain ⟨text, hjson⟩ := toJson_eq_str_iff.2 htext
    rw [hjson]
    exact .text text

theorem suits_of_consistent {shape : Shape} {value : Value} (h : Consistent shape value.toJson) :
    Suits shape value := by
  cases value with
  | string text =>
    rcases h with _ | _ | _ | _ | _ | _ | _ | _
    · exact .string (.string text)
    · exact .text (.string text)
  | datetime datetime =>
    rcases h with _ | _ | _ | _ | _ | _ | _ | _
    · exact .string (.datetime datetime)
    · exact .text (.datetime datetime)
  | boolean b =>
    rcases h with _ | _ | _ | _ | _ | _ | _ | _
    · exact .boolean b
    · exact .flag b
  | integer n =>
    cases h
    exact .whole n
  | float x =>
    rw [Value.toJson] at h
    split at h
    · rename_i hfinite
      cases h
      exact .float hfinite
    · cases h
  | array items =>
    rw [Value.toJson, Value.itemsToJson_eq_map] at h
    cases h with
    | strings hitems =>
      exact .strings fun item hitem => toJson_eq_str_iff.1 (List.forall_mem_map.1 hitems item hitem)
  | table entries =>
    rw [Value.toJson, Value.entriesToJson_eq_map] at h
    cases h with
    | object hmembers =>
      exact .object fun entry hentry => toJson_eq_str_iff.1 (List.forall_mem_map.1 hmembers entry hentry)

/-- Becoming JSON neither makes nor breaks the fit of a value with a type. -/
theorem consistent_toJson_iff (shape : Shape) (value : Value) :
    Consistent shape value.toJson ↔ Suits shape value :=
  ⟨suits_of_consistent, consistent_toJson⟩

/-! ### Another default -/

section put

variable {table : Table}

theorem textAt?_put_default {name : String} (h : "default" ≠ name) (table : Table) (value : Value) :
    textAt? (Keyed.put table "default" value) name = textAt? table name := by
  rw [textAt?, textAt?, Keyed.get?_put_of_ne h]

theorem mem_keys_put_default {name : String} (h : "default" ≠ name) (table : Table) (value : Value) :
    name ∈ Keyed.keys (Keyed.put table "default" value) ↔ name ∈ Keyed.keys table := by
  rw [← Keyed.has_iff, ← Keyed.has_iff, Keyed.has, Keyed.has, Keyed.get?_put_of_ne h]

/-- No rule asks anything of a default. -/
theorem holds_put_default {rule : Rule} (h : rule.Holds table) (value : Value) :
    rule.Holds (Keyed.put table "default" value) := by
  cases rule with
  | fields =>
    intro entry hentry
    rcases Keyed.mem_put hentry with hentry | rfl
    · exact h entry hentry
    · exact .default value
  | type =>
    obtain ⟨tag, htag, hknown⟩ := h
    exact ⟨tag, (textAt?_put_default (by decide) table value).trans htag, hknown⟩
  | description =>
    obtain ⟨text, htext, hblank⟩ := h
    exact ⟨text, (textAt?_put_default (by decide) table value).trans htext, hblank⟩
  | items =>
    intro items hitems
    rw [Keyed.get?_put_of_ne (by decide)] at hitems
    exact h items hitems
  | mode =>
    intro mode hmode
    rw [textAt?_put_default (by decide)] at hmode
    exact h mode hmode

theorem checked_put_default {rule : Rule} {value : Value}
    (h : rule.Checked (Keyed.put table "default" value)) : rule.Checked table := by
  by_cases hrule : rule = .mode
  · subst hrule
    exact (mem_keys_put_default (by decide) table value).1 h
  · exact Rule.checked_of_ne hrule table

theorem authored_put_default (table : Table) (value : Value) :
    Authored.ofTable (Keyed.put table "default" value)
      = { Authored.ofTable table with default := some value.toJson } := by
  have hother : ∀ name, "default" ≠ name →
      Keyed.get? (Keyed.put table "default" value) name = Keyed.get? table name :=
    fun name hname => Keyed.get?_put_of_ne hname table value
  simp only [Authored.ofTable, Keyed.get?_put_self, hother "type" (by decide),
    hother "description" (by decide), hother "deprecated" (by decide), hother "enum" (by decide),
    Option.map_some]

end put

/-! ### The default of a setting -/

/-- The literal default of a setting is what was authored, and it is consistent with the type shown if and
only if it was authored as a value of that type. A table with any other default in its place is accepted
as well, and nothing but the default changes in what the JSON schema shows of the setting. The defaults
include tables whose first key marks a date-time, which no loaded document holds. -/
theorem default_is_unchecked {key : String} {table : Table} {element : Element}
    (h : Element.build key table = .ok element) :
    element.literal = (Keyed.get? table "default").map Value.toJson
      ∧ (∀ value, Consistent element.shape value.toJson ↔ Suits element.shape value)
      ∧ ∀ value, ∃ other, Element.build key (Keyed.put table "default" value) = .ok other
        ∧ other.authored = { element.authored with default := some value.toJson } := by
  have hauthored := authored_of_build h
  refine ⟨(congrArg Authored.default hauthored).symm, consistent_toJson_iff element.shape, ?_⟩
  intro value
  obtain ⟨other, hother⟩ : ∃ other, Element.build key (Keyed.put table "default" value) = .ok other := by
    refine exists_build_iff.2 fun rule hchecked => ?_
    exact holds_put_default (exists_build_iff.1 ⟨element, h⟩ rule (checked_put_default hchecked)) value
  refine ⟨other, hother, ?_⟩
  rw [← authored_of_build hother, authored_put_default, hauthored]

/-- A switch with a text as its default. -/
def wordySwitch : Table :=
  [("type", .string "Option<Bool>"), ("description", .string "d"), ("default", .string "yes")]

theorem default_is_unchecked_wordySwitch :
    ∃ element, Element.build "quiet" wordySwitch = .ok element
      ∧ element.shape = .boolean
      ∧ element.literal = some (.str "yes")
      ∧ ∃ other, Element.build "quiet" (Keyed.put wordySwitch "default" (.boolean true)) = .ok other
        ∧ other.shape = .boolean
        ∧ other.literal = some (.bool true) := by
  obtain ⟨element, hbuild, hshape⟩ :
      ∃ element, Element.build "quiet" wordySwitch = .ok element ∧ element.shape = .boolean := ⟨_, rfl, rfl⟩
  obtain ⟨hliteral, -, hothers⟩ := default_is_unchecked hbuild
  obtain ⟨other, hother, hauthored⟩ := hothers (.boolean true)
  refine ⟨element, hbuild, hshape, hliteral, other, hother, ?_, congrArg Authored.default hauthored⟩
  have hsame : some other.shape = some element.shape := congrArg Authored.shape hauthored
  rw [Option.some.inj hsame, hshape]

/-- A default that is accepted need not be consistent with the type shown. -/
theorem not_consistent_wordySwitch :
    ∃ element literal, Element.build "quiet" wordySwitch = .ok element
      ∧ element.literal = some literal
      ∧ ¬ Consistent element.shape literal := by
  refine ⟨_, _, rfl, rfl, ?_⟩
  rintro ⟨⟩

end Catalog.Setting
