import Catalog.Toml.Value

/-!
What a TOML document says, statement by statement, before its tables are put together.
-/

namespace Catalog.Toml

/-- A value as written. The entries of a table in braces are kept with their dotted keys. -/
inductive Expr
  | string (value : String)
  | integer (value : Int)
  | float (value : Float)
  | boolean (value : Bool)
  | datetime (value : DateTime)
  | array (items : List Expr)
  | braces (entries : List (List String × String × Expr))

/-- A statement. Its key is the last part of a dotted key, whose other parts are the path. -/
inductive Statement
  /-- An entry `path.key = value`. -/
  | entry (path : List String) (key : String) (value : Expr)
  /-- The header `[path.key]` of a table. -/
  | table (path : List String) (key : String)
  /-- The header `[[path.key]]` of the next element of an array of tables. -/
  | element (path : List String) (key : String)

end Catalog.Toml
