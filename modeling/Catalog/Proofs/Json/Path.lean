import Catalog.Json.Document
import Mathlib.Data.List.Infix

/-!
Paths into a document. Main statement: to change a member changes nothing beside its path. What is changed
in it may again be told by paths, so a change deep in a document is followed level by level.
-/

namespace Catalog

namespace Json

/-- A step into a document: to a member of an object or to an item of an array. -/
inductive Step
  | member (key : String)
  | item (index : Nat)
  deriving DecidableEq

/-- The value one step into a document. -/
def step? : Json → Step → Option Json
  | obj members, .member key => Keyed.get? members key
  | arr items, .item index => items[index]?
  | _, _ => none

/-- The value at the end of a path. -/
def at? : Json → List Step → Option Json
  | json, [] => some json
  | json, step :: rest => (json.step? step).bind (at? · rest)

/-- The keys of the object at the end of a path, in order. -/
def keysAt? (json : Json) (path : List Step) : Option (List String) :=
  ((json.at? path).bind members?).map Keyed.keys

/-- Two paths are apart if neither leads through the end of the other. -/
def Apart (path other : List Step) : Prop :=
  ¬ path <+: other ∧ ¬ other <+: path

theorem not_apart_nil (path : List Step) : ¬ Apart path [] :=
  fun h => h.2 path.nil_prefix

theorem not_nil_apart (path : List Step) : ¬ Apart [] path :=
  fun h => h.1 path.nil_prefix

theorem apart_cons {step next : Step} {path other : List Step} :
    Apart (step :: path) (next :: other) ↔ (step = next → Apart path other) := by
  by_cases h : step = next
  · simp [Apart, List.cons_prefix_cons, h]
  · simp [Apart, List.cons_prefix_cons, h, Ne.symm h]

/-- Two documents have the same value at every path that is apart from some others. -/
def SameBeside (targets : List (List Step)) (json other : Json) : Prop :=
  ∀ path, (∀ target ∈ targets, Apart path target) → json.at? path = other.at? path

namespace SameBeside

variable {targets others : List (List Step)} {json middle other : Json}

theorem refl (targets : List (List Step)) (json : Json) : SameBeside targets json json :=
  fun _ _ => rfl

theorem mono (h : SameBeside targets json other) (hsub : targets ⊆ others) :
    SameBeside others json other :=
  fun path hpath => h path fun target htarget => hpath target (hsub htarget)

theorem trans (h : SameBeside targets json middle) (hnext : SameBeside targets middle other) :
    SameBeside targets json other :=
  fun path hpath => (h path hpath).trans (hnext path hpath)

theorem eq_of_nil (h : SameBeside [] json other) : json = other :=
  Option.some.inj (h [] (by simp))

end SameBeside

variable {members : List (String × Json)} {key : String}

theorem at?_member_eq_some {json value : Json} {rest : List Step} :
    json.at? (.member key :: rest) = some value
      ↔ ∃ members inner, json = obj members ∧ Keyed.get? members key = some inner
        ∧ inner.at? rest = some value := by
  rw [at?, Option.bind_eq_some_iff]
  constructor
  · rintro ⟨inner, hinner, hvalue⟩
    cases json with
    | obj members => exact ⟨members, inner, rfl, hinner, hvalue⟩
    | null | bool | int | float | str | arr => cases hinner
  · rintro ⟨members, inner, rfl, hinner, hvalue⟩
    exact ⟨inner, hinner, hvalue⟩

theorem keysAt?_obj (members : List (String × Json)) : (obj members).keysAt? [] = some (Keyed.keys members) :=
  rfl

theorem keysAt?_member {inner : Json} (h : Keyed.get? members key = some inner) (rest : List Step) :
    (obj members).keysAt? (.member key :: rest) = inner.keysAt? rest := by
  rw [keysAt?, at?, step?, h, Option.bind_some, keysAt?]

theorem step?_put_of_ne {step : Step} (h : step ≠ .member key) (members : List (String × Json))
    (value : Json) : (obj (Keyed.put members key value)).step? step = (obj members).step? step := by
  cases step with
  | member name =>
    have hname : key ≠ name := fun e => h (e ▸ rfl)
    exact Keyed.get?_put_of_ne hname members value
  | item index => rfl

theorem step?_put_self (members : List (String × Json)) (key : String) (value : Json) :
    (obj (Keyed.put members key value)).step? (.member key) = some value :=
  Keyed.get?_put_self members key value

/-- A member that is put into an object leaves everything beside it. -/
theorem sameBeside_put (members : List (String × Json)) (key : String) (value : Json) :
    SameBeside [[.member key]] (obj (Keyed.put members key value)) (obj members)
  | [], hpath => absurd (hpath _ (List.mem_singleton_self _)) (not_nil_apart _)
  | step :: rest, hpath => by
    have hstep : step ≠ .member key := by
      rintro rfl
      exact not_apart_nil rest (apart_cons.1 (hpath _ (List.mem_singleton_self _)) rfl)
    rw [at?, at?, step?_put_of_ne hstep]

/-- A member that is changed at some paths leaves everything beside them. -/
theorem sameBeside_put_inner {targets : List (List Step)} {inner changed : Json}
    (hget : Keyed.get? members key = some inner) (h : SameBeside targets changed inner) :
    SameBeside (targets.map (Step.member key :: ·)) (obj (Keyed.put members key changed)) (obj members) := by
  rintro (_ | ⟨step, rest⟩) hpath
  · cases targets with
    | nil => rw [h.eq_of_nil, Keyed.put_eq_self hget]
    | cons target more => exact absurd (hpath _ List.mem_cons_self) (not_nil_apart _)
  · by_cases hstep : step = .member key
    · subst hstep
      have hrest : ∀ target ∈ targets, Apart rest target := fun target htarget =>
        apart_cons.1 (hpath _ (List.mem_map_of_mem htarget)) rfl
      have hinner : (obj members).step? (.member key) = some inner := hget
      rw [at?, at?, step?_put_self, hinner]
      exact h rest hrest
    · rw [at?, at?, step?_put_of_ne hstep]

end Json

end Catalog
