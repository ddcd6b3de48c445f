import Catalog.Keyed
import Catalog.Toml.Syntax

/-!
Putting the statements of a document together. A table under construction remembers how it came
about, since that decides who may still add to it: a table that was only mentioned on the way to
another one may get a header of its own, a table made by dotted keys may be extended by more dotted
keys, and a table with a header or in braces is closed to dotted keys from outside. The entries of a
table stand in the order in which they came about, where its own header counts for a table that was
mentioned before.
-/

namespace Catalog.Toml

/-- How a table came about. -/
inductive Origin
  /-- Mentioned in the path of a header. -/
  | mentioned
  /-- Made by a dotted key. -/
  | dotted
  /-- Defined by a header of its own. -/
  | defined
  deriving DecidableEq, Repr

/-- An entry under construction: a value, a table, or the tables of an array that headers extend. -/
inductive Draft
  | value (value : Value)
  | table (origin : Origin) (entries : List (String × Draft))
  | elements (tables : List (List (String × Draft)))

/-- The entries of a table under construction. -/
abbrev Drafts := List (String × Draft)

/-- Changes the entry at a key, or adds one at the end. -/
def alter (change : Option Draft → Option Draft) (key : String) : Drafts → Option Drafts
  | [] => (change none).map fun draft => [(key, draft)]
  | (name, draft) :: rest =>
    if name = key then (change (some draft)).map fun draft => (name, draft) :: rest
    else (alter change key rest).map ((name, draft) :: ·)

/-- Changes the last table of an array of tables. -/
def alterLast (change : Drafts → Option Drafts) : List Drafts → Option (List Drafts)
  | [] => none
  | [table] => (change table).map ([·])
  | table :: rest => (alterLast change rest).map (table :: ·)

/-- Adds a value under a dotted key. The tables on the path are made by dotted keys, or were only
mentioned; the innermost one is made by dotted keys. -/
def addEntry (key : String) (value : Value) : List String → Drafts → Option Drafts
  | [] => alter (fun | none => some (.value value) | some _ => none) key
  | name :: path => alter (fun
      | none => (addEntry key value path []).map (.table .dotted)
      | some (.table .dotted entries) => (addEntry key value path entries).map (.table .dotted)
      | some (.table .mentioned entries) =>
        if path.isEmpty then none else (addEntry key value path entries).map (.table .mentioned)
      | some (.elements tables) =>
        if path.isEmpty then none
        else (alterLast (addEntry key value path) tables).map .elements
      | some (.table .defined _) | some (.value _) => none) name

/-- Changes the table that a path leads to. Tables on the path that are missing get mentioned, and
the way through an array of tables leads into its last one. -/
def inside (change : Drafts → Option Drafts) : List String → Drafts → Option Drafts
  | [] => change
  | name :: path => alter (fun
      | none => (inside change path []).map (.table .mentioned)
      | some (.table origin entries) => (inside change path entries).map (.table origin)
      | some (.elements tables) => (alterLast (inside change path) tables).map .elements
      | some (.value _) => none) name

/-- Opens a table by its header: a new one, or one that was only mentioned so far. Either way it is
the last entry of its parent. -/
def openTable (key : String) (entries : Drafts) : Option Drafts :=
  match Keyed.get? entries key with
  | none => some (entries ++ [(key, .table .defined [])])
  | some (.table .mentioned inner) =>
    some (Keyed.erase entries key ++ [(key, .table .defined inner)])
  | some _ => none

/-- Opens the next element of an array of tables by its header. -/
def openElement (key : String) : Drafts → Option Drafts :=
  alter (fun
    | none => some (.elements [[]])
    | some (.elements tables) => some (.elements (tables ++ [[]]))
    | some _ => none) key

mutual

/-- The value of a finished entry. -/
def Draft.toValue : Draft → Value
  | .value value => value
  | .table _ entries => .table (draftsToTable entries)
  | .elements tables => .array (tablesToValues tables)

/-- The entries of a finished table. -/
def draftsToTable : List (String × Draft) → List (String × Value)
  | [] => []
  | (key, draft) :: rest => (key, draft.toValue) :: draftsToTable rest

/-- The elements of a finished array of tables. -/
def tablesToValues : List (List (String × Draft)) → List Value
  | [] => []
  | table :: rest => .table (draftsToTable table) :: tablesToValues rest

end

mutual

/-- The value of an expression; nothing if a table in braces repeats a key. -/
def Expr.eval? : Expr → Option Value
  | .string s => some (.string s)
  | .integer n => some (.integer n)
  | .float x => some (.float x)
  | .boolean b => some (.boolean b)
  | .datetime d => some (.datetime d)
  | .array items => (evalItems? items).map .array
  | .braces entries => (evalEntries? entries []).map fun drafts => .table (draftsToTable drafts)

/-- The values of the items of an array. -/
def evalItems? : List Expr → Option (List Value)
  | [] => some []
  | item :: rest => do
    let value ← item.eval?
    return value :: (← evalItems? rest)

/-- Adds the entries of a table in braces one after the other. -/
def evalEntries? : List (List String × String × Expr) → Drafts → Option Drafts
  | [], drafts => some drafts
  | (path, key, expr) :: rest, drafts => do
    let value ← expr.eval?
    evalEntries? rest (← addEntry key value path drafts)

end

/-- A document under construction, with the path of the last header; before the first one it is
empty. -/
structure Assembly where
  drafts : Drafts
  header : List String

/-- Adds one statement. An entry goes to the table under the last header. -/
def Assembly.add? (assembly : Assembly) : Statement → Option Assembly
  | .entry path key expr => do
    let value ← expr.eval?
    let drafts ← inside (addEntry key value path) assembly.header assembly.drafts
    return { assembly with drafts }
  | .table path key => do
    return ⟨← inside (openTable key) path assembly.drafts, path ++ [key]⟩
  | .element path key => do
    return ⟨← inside (openElement key) path assembly.drafts, path ++ [key]⟩

/-- The table of a document; nothing if the statements contradict each other. -/
def assemble? (statements : List Statement) : Option Table := do
  let assembly ← statements.foldlM Assembly.add? ⟨[], []⟩
  return draftsToTable assembly.drafts

end Catalog.Toml
