import Catalog.Json.Document
import Mathlib.Data.List.Forall2

/-!
Equality of documents. Main statement: two values are found equal exactly if they are alike, which is to say
that they are the same but for the order of the members of objects.
-/

namespace Catalog.Json

/-- Values that are the same but for the order of members: objects of one size, each name of the first a name
of the second, with values alike. Floats are alike if they are numerically equal. -/
inductive Alike : Json → Json → Prop
  | null : Alike .null .null
  | bool (b : Bool) : Alike (.bool b) (.bool b)
  | int (n : Int) : Alike (.int n) (.int n)
  | float {x y : Float} : x == y → Alike (.float x) (.float y)
  | str (text : String) : Alike (.str text) (.str text)
  | arr {items others : List Json} : List.Forall₂ Alike items others → Alike (.arr items) (.arr others)
  | obj {members others : List (String × Json)} : members.length = others.length →
      (∀ name ∈ Keyed.keys members, name ∈ Keyed.keys others) →
      (∀ member ∈ members, ∀ other, Keyed.get? others member.1 = some other → Alike member.2 other) →
      Alike (.obj members) (.obj others)

/-- A member has a value alike under its name among others. -/
def HasAlike (others : List (String × Json)) (member : String × Json) : Prop :=
  ∃ other, Keyed.get? others member.1 = some other ∧ Alike member.2 other

theorem alike_obj_iff {members others : List (String × Json)} :
    Alike (.obj members) (.obj others)
      ↔ members.length = others.length ∧ ∀ member ∈ members, HasAlike others member := by
  simp only [HasAlike, Keyed.forall_exists_get?_iff]
  constructor
  · rintro (_ | _ | _ | _ | _ | _ | ⟨hlength, hnames, hvalues⟩)
    exact ⟨hlength, hnames, hvalues⟩
  · rintro ⟨hlength, hnames, hvalues⟩
    exact .obj hlength hnames hvalues

mutual

theorem same_iff : ∀ {json other : Json}, same json other = true ↔ Alike json other
  | .null, other => by
    cases other with
    | null => exact ⟨fun _ => .null, fun _ => rfl⟩
    | _ => exact ⟨nofun, nofun⟩
  | .bool a, other => by
    cases other with
    | bool b =>
      rw [same, decide_eq_true_iff]
      exact ⟨fun h => h ▸ .bool a, fun | .bool _ => rfl⟩
    | _ => exact ⟨nofun, nofun⟩
  | .int a, other => by
    cases other with
    | int b =>
      rw [same, decide_eq_true_iff]
      exact ⟨fun h => h ▸ .int a, fun | .int _ => rfl⟩
    | _ => exact ⟨nofun, nofun⟩
  | .str a, other => by
    cases other with
    | str b =>
      rw [same, decide_eq_true_iff]
      exact ⟨fun h => h ▸ .str a, fun | .str _ => rfl⟩
    | _ => exact ⟨nofun, nofun⟩
  | .float x, other => by
    cases other with
    | float y =>
      rw [same]
      constructor
      · exact .float
      · rintro (_ | _ | _ | hequal)
        exact hequal
    | _ => exact ⟨nofun, nofun⟩
  | .arr items, other => by
    cases other with
    | arr others =>
      rw [same, sameItems_iff]
      constructor
      · exact .arr
      · rintro (_ | _ | _ | _ | _ | hall)
        exact hall
    | _ => exact ⟨nofun, nofun⟩
  | .obj members, other => by
    cases other with
    | obj others => rw [same, alike_obj_iff, Bool.and_eq_true, decide_eq_true_iff, sameMembers_iff]
    | _ => exact ⟨nofun, nofun⟩

theorem sameItems_iff : ∀ {items others : List Json},
    sameItems items others = true ↔ List.Forall₂ Alike items others
  | [], others => by cases others <;> simp [sameItems]
  | item :: rest, [] => by simp [sameItems]
  | item :: rest, other :: others => by
    rw [sameItems, Bool.and_eq_true, same_iff, sameItems_iff, List.forall₂_cons]

theorem sameMembers_iff : ∀ {members others : List (String × Json)},
    sameMembers members others = true ↔ ∀ member ∈ members, HasAlike others member
  | [], others => by simp [sameMembers]
  | (name, value) :: rest, others => by
    rw [sameMembers, Bool.and_eq_true, sameMembers_iff, List.forall_mem_cons, HasAlike]
    cases Keyed.get? others name with
    | none => simp
    | some other => simp [same_iff]

end

instance (json other : Json) : Decidable (Alike json other) :=
  decidable_of_iff _ same_iff

end Catalog.Json
