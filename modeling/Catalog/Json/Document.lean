import Catalog.Keyed

/-!
JSON documents. Objects keep the order of their members. Whole numbers and floats are different
values, even where they are numerically equal.
-/

namespace Catalog

/-- A JSON value. -/
inductive Json
  | null
  | bool (value : Bool)
  | int (value : Int)
  | float (value : Float)
  | str (value : String)
  | arr (items : List Json)
  | obj (members : List (String × Json))
  deriving Inhabited

namespace Json

/-- The members of an object. -/
def members? : Json → Option (List (String × Json))
  | .obj members => some members
  | _ => none

/-- The value of a member, if the value is an object that has it. -/
def get? (json : Json) (key : String) : Option Json :=
  json.members?.bind (Keyed.get? · key)

theorem get?_obj (members : List (String × Json)) (key : String) :
    (obj members).get? key = Keyed.get? members key :=
  rfl

/-- Sets a member of an object; another value stays as it is. -/
def set (json : Json) (key : String) (value : Json) : Json :=
  match json with
  | .obj members => .obj (Keyed.put members key value)
  | other => other

/-- An array of strings. -/
def strings (items : List String) : Json :=
  .arr (items.map .str)

mutual

/-- Equality of values, in which the order of the members of an object does not matter. -/
def same : Json → Json → Bool
  | .null, .null => true
  | .bool a, .bool b => a = b
  | .int a, .int b => a = b
  | .float a, .float b => a == b
  | .str a, .str b => a = b
  | .arr as, .arr bs => sameItems as bs
  | .obj as, .obj bs => as.length = bs.length && sameMembers as bs
  | _, _ => false

/-- Whether the items are equal, one by one. -/
def sameItems : List Json → List Json → Bool
  | [], [] => true
  | a :: as, b :: bs => same a b && sameItems as bs
  | _, _ => false

/-- Whether each of the first members has an equal one of the same name among the second. -/
def sameMembers : List (String × Json) → List (String × Json) → Bool
  | [], _ => true
  | (key, a) :: rest, bs =>
    (match Keyed.get? bs key with
      | some b => same a b
      | none => false) && sameMembers rest bs

end

end Json

end Catalog
