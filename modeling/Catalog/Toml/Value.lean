import Catalog.Decimal.Layout
import Catalog.Json.Document
import Catalog.Text.Quoted
import Catalog.Toml.DateTime

/-!
TOML values, and what other parts make of them: JSON values, and phrases of messages.
-/

namespace Catalog.Toml

/-- A TOML value. Tables keep their order. -/
inductive Value
  | string (value : String)
  | integer (value : Int)
  | float (value : Float)
  | boolean (value : Bool)
  | datetime (value : DateTime)
  | array (items : List Value)
  | table (entries : List (String × Value))
  deriving Inhabited

/-- The entries of a table in order. -/
abbrev Table := List (String × Value)

namespace Value

/-- The entries, if the value is a table. -/
def table? : Value → Option Table
  | table entries => some entries
  | _ => none

/-- The text of a value that reads as a string: a string, or a date-time as it is shown. -/
def text? : Value → Option String
  | string s => some s
  | datetime d => some d.text
  | _ => none

/-- The text of a string. -/
def string? : Value → Option String
  | string s => some s
  | _ => none

/-- A float without an exponent, as messages and documents show it. Of two shortest decimals that
are equally near, the one farther from zero is shown. -/
def floatChars (notANumber : String) (x : Float) : List Char :=
  if x.isNaN then notANumber.toList
  else if x.isInf then if x < 0 then "-inf".toList else "inf".toList
  else (Decimal.shortest .away (.ofFloat x)).positional

/-- The phrase for a value in a message about its type. -/
def phrase : Value → String
  | string s => s!"string {Text.quoted s}"
  | integer n => s!"integer `{String.ofList (Decimal.intChars n)}`"
  | float x => "floating point `" ++ String.ofList (floatChars "NaN" x) ++ "`"
  | boolean b => s!"boolean `{b}`"
  | datetime d => s!"string {Text.quoted d.text}"
  | array _ => "sequence"
  | table _ => "map"

mutual

/-- The value with every date-time replaced by its text. -/
def undated : Value → Value
  | datetime d => .string d.text
  | array items => .array (undatedItems items)
  | table entries => .table (undatedEntries entries)
  | value => value

/-- The items with every date-time replaced by its text. -/
def undatedItems : List Value → List Value
  | [] => []
  | item :: rest => item.undated :: undatedItems rest

/-- The entries with every date-time replaced by its text. -/
def undatedEntries : List (String × Value) → List (String × Value)
  | [] => []
  | (key, value) :: rest => (key, value.undated) :: undatedEntries rest

end

mutual

/-- The JSON value of a TOML value: date-times become strings, and floats that are no finite numbers
become null. The entries of a table keep their order, so a plain value may stand behind a table. -/
def toJson : Value → Json
  | string s => .str s
  | integer n => .int n
  | float x => if x.isFinite then .float x else .null
  | boolean b => .bool b
  | datetime d => .str d.text
  | array items => .arr (itemsToJson items)
  | table entries => .obj (entriesToJson entries)

/-- The JSON values of the items of an array. -/
def itemsToJson : List Value → List Json
  | [] => []
  | item :: rest => item.toJson :: itemsToJson rest

/-- The members of the entries of a table, in their order. -/
def entriesToJson : List (String × Value) → List (String × Json)
  | [] => []
  | (key, value) :: rest => (key, value.toJson) :: entriesToJson rest

end

example : (table [("t", .table [("x", .integer 1)]), ("n", .integer 2)]).toJson
    = .obj [("t", .obj [("x", .int 1)]), ("n", .int 2)] := by rfl

end Value

end Catalog.Toml
