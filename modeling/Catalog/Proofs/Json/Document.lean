import Catalog.Json.Document
import Catalog.Proofs.Keyed
import Mathlib

/-!
Documents as a whole: what all their scalars and all their key lists have in common, and how deep they
are nested.
-/

namespace Catalog

namespace Json

/-! ### What holds of every part -/

mutual

/-- Whether every scalar in a document, and the list of the keys of every object, has a property. -/
def Every (scalar : Json → Prop) (keys : List String → Prop) : Json → Prop
  | arr items => EveryItem scalar keys items
  | obj members => keys (Keyed.keys members) ∧ EveryMember scalar keys members
  | json => scalar json

/-- Whether the parts of all items have the properties. -/
def EveryItem (scalar : Json → Prop) (keys : List String → Prop) : List Json → Prop
  | [] => True
  | item :: rest => item.Every scalar keys ∧ EveryItem scalar keys rest

/-- Whether the parts of the values of all members have the properties. -/
def EveryMember (scalar : Json → Prop) (keys : List String → Prop) : List (String × Json) → Prop
  | [] => True
  | (_, value) :: rest => value.Every scalar keys ∧ EveryMember scalar keys rest

end

variable {scalar : Json → Prop} {keys : List String → Prop}

theorem everyItem_iff : ∀ items : List Json,
    EveryItem scalar keys items ↔ ∀ item ∈ items, item.Every scalar keys
  | [] => by simp [EveryItem]
  | item :: rest => by simp [EveryItem, everyItem_iff rest]

theorem everyMember_iff : ∀ members : List (String × Json),
    EveryMember scalar keys members ↔ ∀ member ∈ members, member.2.Every scalar keys
  | [] => by simp [EveryMember]
  | member :: rest => by simp [EveryMember, everyMember_iff rest]

theorem every_arr {items : List Json} :
    (arr items).Every scalar keys ↔ ∀ item ∈ items, item.Every scalar keys := by
  rw [Every, everyItem_iff]

theorem every_obj {members : List (String × Json)} : (obj members).Every scalar keys
    ↔ keys (Keyed.keys members) ∧ ∀ member ∈ members, member.2.Every scalar keys := by
  rw [Every, everyMember_iff]

mutual

/-- Two properties of scalars, with a property of key lists that follows from two. -/
theorem Every.combine {scalar' : Json → Prop} {keys' keys'' : List String → Prop}
    (hkeys : ∀ names, keys names → keys' names → keys'' names) : ∀ {json : Json},
    json.Every scalar keys → json.Every scalar' keys' →
      json.Every (fun s => scalar s ∧ scalar' s) keys''
  | .null, h, h' | .bool _, h, h' | .int _, h, h' | .float _, h, h' | .str _, h, h' => ⟨h, h'⟩
  | .arr _, h, h' => EveryItem.combine hkeys h h'
  | .obj _, h, h' => ⟨hkeys _ h.1 h'.1, EveryMember.combine hkeys h.2 h'.2⟩

theorem EveryItem.combine {scalar' : Json → Prop} {keys' keys'' : List String → Prop}
    (hkeys : ∀ names, keys names → keys' names → keys'' names) : ∀ {items : List Json},
    EveryItem scalar keys items → EveryItem scalar' keys' items →
      EveryItem (fun s => scalar s ∧ scalar' s) keys'' items
  | [], _, _ => trivial
  | _ :: _, h, h' => ⟨Every.combine hkeys h.1 h'.1, EveryItem.combine hkeys h.2 h'.2⟩

theorem EveryMember.combine {scalar' : Json → Prop} {keys' keys'' : List String → Prop}
    (hkeys : ∀ names, keys names → keys' names → keys'' names) :
    ∀ {members : List (String × Json)}, EveryMember scalar keys members →
      EveryMember scalar' keys' members → EveryMember (fun s => scalar s ∧ scalar' s) keys'' members
  | [], _, _ => trivial
  | _ :: _, h, h' => ⟨Every.combine hkeys h.1 h'.1, EveryMember.combine hkeys h.2 h'.2⟩

end

mutual

theorem Every.imp {scalar' : Json → Prop} {keys' : List String → Prop}
    (hscalar : ∀ s, scalar s → scalar' s) (hkeys : ∀ names, keys names → keys' names) :
    ∀ {json : Json}, json.Every scalar keys → json.Every scalar' keys'
  | .null, h | .bool _, h | .int _, h | .float _, h | .str _, h => hscalar _ h
  | .arr _, h => EveryItem.imp hscalar hkeys h
  | .obj _, h => ⟨hkeys _ h.1, EveryMember.imp hscalar hkeys h.2⟩

theorem EveryItem.imp {scalar' : Json → Prop} {keys' : List String → Prop}
    (hscalar : ∀ s, scalar s → scalar' s) (hkeys : ∀ names, keys names → keys' names) :
    ∀ {items : List Json}, EveryItem scalar keys items → EveryItem scalar' keys' items
  | [], _ => trivial
  | _ :: _, h => ⟨Every.imp hscalar hkeys h.1, EveryItem.imp hscalar hkeys h.2⟩

theorem EveryMember.imp {scalar' : Json → Prop} {keys' : List String → Prop}
    (hscalar : ∀ s, scalar s → scalar' s) (hkeys : ∀ names, keys names → keys' names) :
    ∀ {members : List (String × Json)}, EveryMember scalar keys members →
      EveryMember scalar' keys' members
  | [], _ => trivial
  | _ :: _, h => ⟨Every.imp hscalar hkeys h.1, EveryMember.imp hscalar hkeys h.2⟩

end

/-- A whole number that fits 64 bits, with a sign or without, is a number of a document. -/
def fitsWord (n : Int) : Prop :=
  -(2 ^ 63 : Int) ≤ n ∧ n < 2 ^ 64

/-- A scalar that has a text: whole numbers fit 64 bits, and floats are finite. -/
def HasText : Json → Prop
  | int n => fitsWord n
  | float x => x.isFinite
  | _ => True

/-- A scalar that a reader may give. -/
def Readable : Json → Prop
  | int n => fitsWord n
  | _ => True

/-! ### Nesting -/

mutual

/-- How deep containers are nested. -/
def depth : Json → Nat
  | arr items => depthOfItems items + 1
  | obj members => depthOfMembers members + 1
  | _ => 0

/-- How deep the items are nested. -/
def depthOfItems : List Json → Nat
  | [] => 0
  | item :: rest => max item.depth (depthOfItems rest)

/-- How deep the values of the members are nested. -/
def depthOfMembers : List (String × Json) → Nat
  | [] => 0
  | (_, value) :: rest => max value.depth (depthOfMembers rest)

end

theorem depthOfItems_le {n : Nat} : ∀ {items : List Json},
    depthOfItems items ≤ n ↔ ∀ item ∈ items, item.depth ≤ n
  | [] => by simp [depthOfItems]
  | item :: rest => by
    rw [depthOfItems, Nat.max_le, depthOfItems_le, List.forall_mem_cons]

theorem depthOfMembers_le {n : Nat} : ∀ {members : List (String × Json)},
    depthOfMembers members ≤ n ↔ ∀ member ∈ members, member.2.depth ≤ n
  | [] => by simp [depthOfMembers]
  | member :: rest => by
    rw [depthOfMembers, Nat.max_le, depthOfMembers_le, List.forall_mem_cons]

/-! ### Reading back -/

mutual

/-- What a document reads back as: floats may change, and of the members with one key the last value
takes the place of the first. -/
def reread (float : Float → Float) : Json → Json
  | .float x => .float (float x)
  | .arr items => .arr (rereadItems float items)
  | .obj members => .obj (Keyed.ofPairs (rereadMembers float members))
  | json => json

/-- What items read back as. -/
def rereadItems (float : Float → Float) : List Json → List Json
  | [] => []
  | item :: rest => item.reread float :: rereadItems float rest

/-- What members read back as, one by one. -/
def rereadMembers (float : Float → Float) : List (String × Json) → List (String × Json)
  | [] => []
  | (key, value) :: rest => (key, value.reread float) :: rereadMembers float rest

end

variable {floats : Float → Float}

theorem keys_rereadMembers : ∀ members : List (String × Json),
    Keyed.keys (rereadMembers floats members) = Keyed.keys members
  | [] => rfl
  | (key, value) :: rest => by
    have ih := keys_rereadMembers rest
    simp only [Keyed.keys, rereadMembers, List.map_cons] at ih ⊢
    rw [ih]

theorem rereadMembers_put : ∀ (members : List (String × Json)) (key : String) (value : Json),
    rereadMembers floats (Keyed.put members key value)
      = Keyed.put (rereadMembers floats members) key (value.reread floats)
  | [], _, _ => rfl
  | (name, old) :: rest, key, value => by
    by_cases hname : name = key
    · simp [Keyed.put, rereadMembers, hname]
    · simp [Keyed.put, rereadMembers, hname, rereadMembers_put rest]

/-- An object with distinct keys reads back member by member. -/
theorem reread_obj {members : List (String × Json)} (h : (Keyed.keys members).Nodup) :
    (obj members).reread floats = obj (rereadMembers floats members) := by
  rw [reread, Keyed.ofPairs_of_nodup]
  rw [keys_rereadMembers]
  exact h

/-- A scalar that reads back as it is: anything but a float, or a finite float that its own text gives
back. -/
def Lasting (floats : Float → Float) : Json → Prop
  | float x => x.isFinite ∧ floats x = x
  | _ => True

mutual

/-- A document of lasting scalars with distinct keys reads back as it is. -/
theorem reread_of_lasting : ∀ {json : Json}, json.Every (Lasting floats) List.Nodup →
    json.reread floats = json
  | .null, _ | .bool _, _ | .int _, _ | .str _, _ => rfl
  | .float _, h => congrArg Json.float h.2
  | .arr items, h => by rw [reread, rereadItems_of_lasting h]
  | .obj members, h => by
    obtain ⟨hkeys, hmembers⟩ := h
    rw [reread_obj hkeys, rereadMembers_of_lasting hmembers]

theorem rereadItems_of_lasting : ∀ {items : List Json}, EveryItem (Lasting floats) List.Nodup items →
    rereadItems floats items = items
  | [], _ => rfl
  | item :: rest, h => by
    rw [rereadItems, reread_of_lasting h.1, rereadItems_of_lasting h.2]

theorem rereadMembers_of_lasting : ∀ {members : List (String × Json)},
    EveryMember (Lasting floats) List.Nodup members → rereadMembers floats members = members
  | [], _ => rfl
  | (key, value) :: rest, h => by
    rw [rereadMembers, reread_of_lasting h.1, rereadMembers_of_lasting h.2]

end

end Json

end Catalog
