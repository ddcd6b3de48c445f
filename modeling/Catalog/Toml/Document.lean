import Catalog.Toml.Draft
import Catalog.Toml.Marked

/-!
Reading TOML documents.
-/

namespace Catalog.Toml

/-- Why a document is refused. -/
inductive Fault
  /-- The text breaks the grammar at a line and a column, both counted from one. -/
  | syntaxError (line column : Nat)
  /-- The statements define something twice, or extend what is closed. -/
  | conflict
  /-- A table that is marked as a date-time does not give one. -/
  | notADatetime
  /-- A value under a key has a type that its reader does not take. -/
  | mistyped (key phrase expected : String)
  deriving DecidableEq, Repr

/-- The diagnostic of a fault. -/
def Fault.message : Fault → String
  | syntaxError line column => s!"TOML parse error at line {line}, column {column}"
  | conflict => "TOML parse error at a key that is defined twice"
  | notADatetime => s!"TOML parse error at {datetimeKey}: invalid datetime"
  | mistyped key phrase expected =>
    s!"TOML parse error at {key}: invalid type: {phrase}, expected {expected}"

/-- The line and the column behind a text. -/
def position (before : List Char) : Nat × Nat :=
  (before.count '\n' + 1, (before.reverse.takeWhile (· ≠ '\n')).length + 1)

/-- The statements of a document. -/
def parseStatements (text : String) : Except Fault (List Statement) :=
  match statements.run text.toList with
  | .ok (statements, []) => .ok statements
  | .ok (_, left) | .error left =>
    let (line, column) := position (text.toList.take (text.toList.length - left.length))
    .error (.syntaxError line column)

/-- Reads a document without a look at marked tables. -/
def parsePlain (text : String) : Except Fault Table := do
  match assemble? (← parseStatements text) with
  | some table => return table
  | none => throw .conflict

/-- The entries of a table with every marked table among their values replaced by its date-time. -/
def resolve (entries : Table) : Except Fault Table :=
  match Value.resolvedEntries? entries with
  | some entries => .ok entries
  | none => .error .notADatetime

/-- Reads a document. -/
def parse (text : String) : Except Fault Table := do
  resolve (← parsePlain text)

end Catalog.Toml
