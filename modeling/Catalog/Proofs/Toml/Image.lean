import Catalog.Proofs.Json.Equality
import Catalog.Proofs.Toml.Printable

/-!
What a value keeps when it becomes JSON. A value without date-times has an image: scalars stay what they are,
arrays go item by item, and tables become objects with the same keys, in whatever order these are put down.
Main statement: images are equal exactly if the values are, the order of keys aside. So no entry is lost, and
a whole number is never taken for a float.
-/

namespace Catalog.Toml.Value

/-- A value without date-times. Its floats are finite, and none of its tables has a key twice. -/
inductive Plain : Value → Prop
  | boolean (b : Bool) : Plain (.boolean b)
  | integer (n : Int) : Plain (.integer n)
  | float {x : Float} : x.isFinite → Plain (.float x)
  | string (text : String) : Plain (.string text)
  | array {items : List Value} : (∀ item ∈ items, Plain item) → Plain (.array items)
  | table {entries : Table} : (Keyed.keys entries).Nodup → (∀ entry ∈ entries, Plain entry.2) →
      Plain (.table entries)

/-- A JSON value that keeps a value. The keys of a table may stand in another order. -/
inductive HasImage : Value → Json → Prop
  | boolean (b : Bool) : HasImage (.boolean b) (.bool b)
  | integer (n : Int) : HasImage (.integer n) (.int n)
  | float (x : Float) : HasImage (.float x) (.float x)
  | string (text : String) : HasImage (.string text) (.str text)
  | array {items : List Value} {images : List Json} : List.Forall₂ HasImage items images →
      HasImage (.array items) (.arr images)
  | table {entries : Table} {members : List (String × Json)} :
      (Keyed.keys entries).Perm (Keyed.keys members) →
      (∀ key value image, Keyed.get? entries key = some value → Keyed.get? members key = some image →
        HasImage value image) →
      HasImage (.table entries) (.obj members)

/-- Values that are the same but for the order of keys: tables of one size, each key of the first a key of the
second, with values alike. Floats are alike if they are numerically equal. -/
inductive Alike : Value → Value → Prop
  | boolean (b : Bool) : Alike (.boolean b) (.boolean b)
  | integer (n : Int) : Alike (.integer n) (.integer n)
  | float {x y : Float} : x == y → Alike (.float x) (.float y)
  | string (text : String) : Alike (.string text) (.string text)
  | array {items others : List Value} : List.Forall₂ Alike items others → Alike (.array items) (.array others)
  | table {entries others : Table} : entries.length = others.length →
      (∀ key ∈ Keyed.keys entries, key ∈ Keyed.keys others) →
      (∀ entry ∈ entries, ∀ other, Keyed.get? others entry.1 = some other → Alike entry.2 other) →
      Alike (.table entries) (.table others)

/-! ### The image of a value -/

theorem keys_entriesToJson (entries : Table) : Keyed.keys (entriesToJson entries) = Keyed.keys entries := by
  rw [entriesToJson_eq_map]
  exact Keyed.keys_map toJson entries

theorem get?_entriesToJson (entries : Table) (key : String) :
    Keyed.get? (entriesToJson entries) key = (Keyed.get? entries key).map toJson := by
  rw [entriesToJson_eq_map]
  exact Keyed.get?_map toJson key entries

theorem hasImage_toJson {value : Value} (h : value.Plain) : value.HasImage value.toJson := by
  induction h with
  | boolean b => exact .boolean b
  | integer n => exact .integer n
  | float hfinite =>
    rw [toJson, if_pos hfinite]
    exact .float _
  | string text => exact .string text
  | array _ ih =>
    rw [toJson, itemsToJson_eq_map]
    exact .array (List.forall₂_map_right_iff.2 (List.forall₂_same.2 ih))
  | table _ _ ih =>
    refine .table (.of_eq (keys_entriesToJson _).symm) ?_
    intro key value image hvalue himage
    rw [get?_entriesToJson, hvalue] at himage
    cases himage
    exact ih _ (Keyed.mem_of_get? hvalue)

/-! ### Equal images -/

theorem alike_table_iff {entries others : Table} : Alike (.table entries) (.table others)
    ↔ entries.length = others.length
      ∧ ∀ entry ∈ entries, ∃ other, Keyed.get? others entry.1 = some other ∧ Alike entry.2 other := by
  rw [Keyed.forall_exists_get?_iff]
  constructor
  · rintro (_ | _ | _ | _ | _ | ⟨hlength, hkeys, hvalues⟩)
    exact ⟨hlength, hkeys, hvalues⟩
  · rintro ⟨hlength, hkeys, hvalues⟩
    exact .table hlength hkeys hvalues

/-- The images of a value and of any other value are equal if and only if the two values are. -/
abbrev Reflects (value : Value) : Prop :=
  ∀ ⦃other image otherImage⦄, value.HasImage image → other.HasImage otherImage →
    (Json.Alike image otherImage ↔ value.Alike other)

theorem forall₂_alike_iff {items others : List Value} {images otherImages : List Json}
    (hitems : List.Forall₂ HasImage items images) (hothers : List.Forall₂ HasImage others otherImages)
    (h : ∀ item ∈ items, item.Reflects) :
    List.Forall₂ Json.Alike images otherImages ↔ List.Forall₂ Alike items others := by
  induction hitems generalizing others otherImages with
  | nil => cases hothers <;> simp
  | cons hitem _ ih =>
    cases hothers with
    | nil => simp
    | cons hother hothers =>
      obtain ⟨hfirst, hrest⟩ := List.forall_mem_cons.1 h
      rw [List.forall₂_cons, List.forall₂_cons, hfirst hitem hother, ih hothers hrest]

/-- Each key leads to a value and to its image, so equal objects come from equal tables and the other way
round. -/
theorem alike_obj_iff_alike_table {entries others : Table} {members otherMembers : List (String × Json)}
    (hnodup : (Keyed.keys entries).Nodup)
    (hentries : HasImage (.table entries) (.obj members))
    (hothers : HasImage (.table others) (.obj otherMembers)) (h : ∀ entry ∈ entries, entry.2.Reflects) :
    Json.Alike (.obj members) (.obj otherMembers) ↔ Alike (.table entries) (.table others) := by
  obtain _ | _ | _ | _ | _ | ⟨hkeys, himages⟩ := hentries
  obtain _ | _ | _ | _ | _ | ⟨hotherKeys, hotherImages⟩ := hothers
  have hlengths : members.length = otherMembers.length ↔ entries.length = others.length := by
    have hsize := hkeys.length_eq
    have hotherSize := hotherKeys.length_eq
    simp only [Keyed.keys, List.length_map] at hsize hotherSize
    rw [hsize, hotherSize]
  rw [Json.alike_obj_iff, alike_table_iff, hlengths]
  refine and_congr_right fun _ => ⟨fun hall entry hentry => ?_, fun hall member hmember => ?_⟩
  · have hvalue := Keyed.get?_of_mem hnodup hentry
    obtain ⟨image, himage⟩ := Keyed.exists_get?_of_perm hkeys hvalue
    obtain ⟨otherImage, hotherImage, halike⟩ := hall _ (Keyed.mem_of_get? himage)
    obtain ⟨other, hother⟩ := Keyed.exists_get?_of_perm hotherKeys.symm hotherImage
    refine ⟨other, hother, (h entry hentry ?_ ?_).1 halike⟩
    · exact himages _ _ _ hvalue himage
    · exact hotherImages _ _ _ hother hotherImage
  · have himage := Keyed.get?_of_mem (hkeys.nodup_iff.1 hnodup) hmember
    obtain ⟨value, hvalue⟩ := Keyed.exists_get?_of_perm hkeys.symm himage
    obtain ⟨other, hother, halike⟩ := hall _ (Keyed.mem_of_get? hvalue)
    obtain ⟨otherImage, hotherImage⟩ := Keyed.exists_get?_of_perm hotherKeys hother
    refine ⟨otherImage, hotherImage, (h _ (Keyed.mem_of_get? hvalue) ?_ ?_).2 halike⟩
    · exact himages _ _ _ hvalue himage
    · exact hotherImages _ _ _ hother hotherImage

/-- The induction is on the first value; where the second one is of another kind, neither side holds. -/
theorem reflects_of_plain {value : Value} (h : value.Plain) : value.Reflects := by
  intro other image otherImage himage hother
  induction h generalizing other image otherImage with
  | boolean b =>
    cases himage
    cases hother with
    | boolean _ =>
      constructor
      · rintro ⟨⟩
        exact .boolean b
      · rintro ⟨⟩
        exact .bool b
    | _ => constructor <;> rintro ⟨⟩
  | integer n =>
    cases himage
    cases hother with
    | integer _ =>
      constructor
      · rintro ⟨⟩
        exact .integer n
      · rintro ⟨⟩
        exact .int n
    | _ => constructor <;> rintro ⟨⟩
  | float _ =>
    cases himage
    cases hother with
    | float _ =>
      constructor
      · rintro (_ | _ | _ | hequal)
        exact .float hequal
      · rintro (_ | _ | hequal)
        exact .float hequal
    | _ => constructor <;> rintro ⟨⟩
  | string text =>
    cases himage
    cases hother with
    | string _ =>
      constructor
      · rintro ⟨⟩
        exact .string text
      · rintro ⟨⟩
        exact .str text
    | _ => constructor <;> rintro ⟨⟩
  | array _ ih =>
    cases himage with
    | array hitems =>
      cases hother with
      | array hothers =>
        have hiff := forall₂_alike_iff hitems hothers ih
        constructor
        · rintro (_ | _ | _ | _ | _ | hall)
          exact .array (hiff.1 hall)
        · rintro (_ | _ | _ | _ | hall)
          exact .arr (hiff.2 hall)
      | _ => constructor <;> rintro ⟨⟩
  | table hnodup _ ih =>
    cases himage with
    | table hkeys himages =>
      cases hother with
      | table hotherKeys hotherImages =>
        exact alike_obj_iff_alike_table hnodup (.table hkeys himages) (.table hotherKeys hotherImages) ih
      | _ => constructor <;> rintro ⟨⟩

end Catalog.Toml.Value
