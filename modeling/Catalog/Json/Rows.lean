import Catalog.Json.Printer
import Catalog.Json.Reader
import Catalog.Text.Quoted

/-!
Reading a JSON list of rows, each with the same text fields. A row is an object, whose other members
are skipped, or a list with the fields in order. The reader works through the tokens from left to
right, so the fault it reports is the first one in the text.
-/

namespace Catalog.Json

/-- A text field of a row. An optional field may be null or absent. -/
structure Field where
  name : String
  optional : Bool
  deriving DecidableEq, Repr

/-- What a row looks like. -/
structure RowShape where
  title : String
  fields : List Field
  deriving DecidableEq, Repr

/-- A row as a phrase of a message. -/
def RowShape.phrase (shape : RowShape) : String :=
  s!"struct {shape.title}"

/-- A row as a phrase of a message that tells its length. -/
def RowShape.lengthPhrase (shape : RowShape) : String :=
  let noun := if shape.fields.length = 1 then "element" else "elements"
  s!"{shape.phrase} with {shape.fields.length} {noun}"

/-- The fields of a row read so far, by name. -/
abbrev Cells := List (String × Option String)

/-- A row that is read: the text of each field. -/
abbrev Row := List (Option String)

/-- Where a reader that skips a value stands. The brackets of the open containers are the stack. -/
inductive SkipState
  /-- A value has to come. -/
  | value
  /-- A container was opened. -/
  | opened
  /-- An element of the innermost container is complete. -/
  | after
  /-- A key has to come, after a comma. -/
  | key
  /-- A key was read. -/
  | afterKey

/-- Where a reader of rows stands, with the rows so far in reverse. -/
inductive RowsState
  /-- The list of rows has to come. -/
  | start
  /-- The list of rows was opened. -/
  | rowOrEnd
  /-- A row has to come, after a comma. -/
  | row (rows : List Row)
  /-- A row is complete. -/
  | afterRow (rows : List Row)
  /-- A row was opened as an object. -/
  | keyOrEnd (rows : List Row)
  /-- A key has to come, after a comma. -/
  | key (rows : List Row) (cells : Cells)
  /-- A key was read: that of a field, or another one. -/
  | afterKey (rows : List Row) (cells : Cells) (field : Option Field)
  /-- The value of a field has to come. -/
  | fieldValue (rows : List Row) (cells : Cells) (field : Field)
  /-- The value of another member is being skipped. -/
  | skipping (rows : List Row) (cells : Cells) (state : SkipState) (stack : List Bracket)
  /-- A member of a row is complete. -/
  | afterMember (rows : List Row) (cells : Cells)
  /-- A row was opened as a list. -/
  | cellOrEnd (rows : List Row)
  /-- The next of the fields has to come, after a comma. -/
  | cell (rows : List Row) (cells : Cells) (field : Field) (later : List Field)
  /-- A cell is complete; the fields that are left are given. -/
  | afterCell (rows : List Row) (cells : Cells) (later : List Field)
  /-- A comma follows the last field. -/
  | surplus
  /-- The list of rows is complete. -/
  | finished (rows : List Row)

/-- The phrase for a value that has the wrong type, or the fault in the value itself. -/
def describe : Token → Except Fault String
  | .opening .list => .ok "sequence"
  | .opening .object => .ok "map"
  | .null => .ok "null"
  | .bool value => .ok s!"boolean `{value}`"
  | .number strict => strict.map fun
    | .float x => s!"floating point `{String.ofList (floatChars x)}`"
    | number => s!"integer `{number.compact}`"
  | .string strict => strict.map fun s => s!"string {Text.quoted s}"
  | .brokenString strict _ => .error strict
  | .brokenScalar strict _ => .error strict
  | .closing _ | .comma | .colon | .stray => .error .expectedValue

/-- Refuses a value for its type. -/
def mistyped {α : Type} (expected : String) (token : Token) : Except Fault α := do
  throw (.invalidType (← describe token) expected)

/-- Reads the text of a field. -/
def readField (field : Field) : Token → Except Fault (Option String)
  | .string strict => strict.map some
  | .null => if field.optional then .ok none else mistyped "a string" .null
  | token => mistyped "a string" token

/-- The row from its fields, in the order of the shape. A required field has to be there. -/
def RowShape.row (shape : RowShape) (cells : Cells) : Except Fault Row :=
  shape.fields.mapM fun field =>
    match Keyed.get? cells field.name with
    | some text => .ok text
    | none => if field.optional then .ok none else .error (.missingField field.name)

/-- Goes on after a value that was skipped: within the container around it, or behind the member. -/
def skipped (rows : List Row) (cells : Cells) : List Bracket → RowsState
  | [] => .afterMember rows cells
  | stack => .skipping rows cells .after stack

/-- Reads a token where a value to be skipped has to come. -/
def skipValue (rows : List Row) (cells : Cells) (stack : List Bracket) :
    Token → Except Fault RowsState
  | .opening bracket => .ok (.skipping rows cells .opened (bracket :: stack))
  | .null | .bool _ | .number _ | .string _ => .ok (skipped rows cells stack)
  | .brokenString _ lenient => .error lenient
  | .brokenScalar _ lenient => .error lenient
  | .closing _ | .comma | .colon | .stray => .error .expectedValue

/-- Reads a token where the key of a member to be skipped has to come. -/
def skipKey (rows : List Row) (cells : Cells) (stack : List Bracket) :
    Token → Except Fault RowsState
  | .string _ => .ok (.skipping rows cells .afterKey stack)
  | .brokenString _ lenient => .error lenient
  | _ => .error .keyNotString

/-- Reads a token where an element of the innermost skipped container has to come. -/
def skipElement (rows : List Row) (cells : Cells) (stack : List Bracket) (token : Token) :
    Except Fault RowsState :=
  match stack with
  | .object :: _ => skipKey rows cells stack token
  | _ => skipValue rows cells stack token

/-- Reads one token of a value that is skipped. -/
def skipStep (rows : List Row) (cells : Cells) (state : SkipState) (stack : List Bracket)
    (token : Token) : Except Fault RowsState :=
  match state, stack, token with
  | .value, _, _ => skipValue rows cells stack token
  | .key, _, _ => skipKey rows cells stack token
  | .afterKey, _, .colon => .ok (.skipping rows cells .value stack)
  | .afterKey, _, _ => .error .expectedColon
  | .opened, bracket :: outer, .closing closed =>
    if bracket = closed then .ok (skipped rows cells outer)
    else skipElement rows cells stack token
  | .opened, _, _ => skipElement rows cells stack token
  | .after, bracket :: outer, .closing closed =>
    if bracket = closed then .ok (skipped rows cells outer)
    else if bracket = .list then .error .expectedListSeparator
    else .error .expectedObjectSeparator
  | .after, .object :: _, .comma => .ok (.skipping rows cells .key stack)
  | .after, _, .comma => .ok (.skipping rows cells .value stack)
  | .after, .object :: _, _ => .error .expectedObjectSeparator
  | .after, _, _ => .error .expectedListSeparator

/-- What a text breaks off in within a value that is skipped. -/
def skipFinish : SkipState → List Bracket → Fault
  | .value, _ => .endInValue
  | .key, _ => .endInObject
  | .afterKey, _ => .endInObject
  | _, .object :: _ => .endInObject
  | _, _ => .endInList

/-- Reads a token where a row has to come. -/
def readRow (shape : RowShape) (rows : List Row) : Token → Except Fault RowsState
  | .opening .list => .ok (.cellOrEnd rows)
  | .opening .object => .ok (.keyOrEnd rows)
  | token => mistyped shape.phrase token

/-- Reads a token where a key of a row has to come. A field may come once. -/
def readFieldKey (shape : RowShape) (rows : List Row) (cells : Cells) (token : Token) :
    Except Fault RowsState := do
  let key ← readKey token
  match shape.fields.find? (·.name = key) with
  | none => return .afterKey rows cells none
  | some field =>
    if Keyed.has cells key then throw (.duplicateField key)
    return .afterKey rows cells (some field)

/-- Reads a token where a cell of a row has to come. -/
def readCell (rows : List Row) (cells : Cells) (field : Field) (later : List Field)
    (token : Token) : Except Fault RowsState :=
  (readField field token).map fun text =>
    .afterCell rows (Keyed.put cells field.name text) later

/-- Ends a row. -/
def endRow (shape : RowShape) (rows : List Row) (cells : Cells) : Except Fault RowsState :=
  (shape.row cells).map fun row => .afterRow (row :: rows)

/-- Reads one token. -/
def RowsState.step (shape : RowShape) : RowsState → Token → Except Fault RowsState
  | .start, .opening .list => .ok .rowOrEnd
  | .start, token => mistyped "a sequence" token
  | .rowOrEnd, .closing .list => .ok (.finished [])
  | .rowOrEnd, token => readRow shape [] token
  | .row _, .closing .list => .error .trailingComma
  | .row rows, token => readRow shape rows token
  | .afterRow rows, .comma => .ok (.row rows)
  | .afterRow rows, .closing .list => .ok (.finished rows)
  | .afterRow _, _ => .error .expectedListSeparator
  | .keyOrEnd rows, .closing .object => endRow shape rows []
  | .keyOrEnd rows, token => readFieldKey shape rows [] token
  | .key _ _, .closing .object => .error .trailingComma
  | .key rows cells, token => readFieldKey shape rows cells token
  | .afterKey rows cells (some field), .colon => .ok (.fieldValue rows cells field)
  | .afterKey rows cells none, .colon => .ok (.skipping rows cells .value [])
  | .afterKey _ _ _, _ => .error .expectedColon
  | .fieldValue rows cells field, token =>
    (readField field token).map fun text =>
      .afterMember rows (Keyed.put cells field.name text)
  | .skipping rows cells state stack, token => skipStep rows cells state stack token
  | .afterMember rows cells, .comma => .ok (.key rows cells)
  | .afterMember rows cells, .closing .object => endRow shape rows cells
  | .afterMember _ _, _ => .error .expectedObjectSeparator
  | .cellOrEnd rows, token =>
    match shape.fields, token with
    | field :: later, .closing .list =>
      if field.optional then endRow shape rows []
      else .error (.invalidLength (shape.fields.length - later.length - 1) shape.lengthPhrase)
    | field :: later, _ => readCell rows [] field later token
    | [], .closing .list => endRow shape rows []
    | [], _ => .error .trailingCharacters
  | .cell _ _ _ _, .closing .list => .error .trailingComma
  | .cell rows cells field later, token => readCell rows cells field later token
  | .afterCell rows cells _, .closing .list => endRow shape rows cells
  | .afterCell rows cells (field :: later), .comma => .ok (.cell rows cells field later)
  | .afterCell _ _ (_ :: _), _ => .error .expectedListSeparator
  | .afterCell _ _ [], .comma => .ok .surplus
  | .afterCell _ _ [], _ => .error .trailingCharacters
  | .surplus, .closing .list => .error .trailingComma
  | .surplus, _ => .error .trailingCharacters
  | .finished _, _ => .error .trailingCharacters

/-- The rows at the end of the text, or what the text breaks off in. -/
def RowsState.finish : RowsState → Except Fault (List Row)
  | .finished rows => .ok rows.reverse
  | .start | .row _ | .key _ _ | .fieldValue _ _ _ | .cell _ _ _ _ => .error .endInValue
  | .rowOrEnd | .afterRow _ | .cellOrEnd _ | .afterCell _ _ _ => .error .endInList
  | .keyOrEnd _ | .afterKey _ _ _ | .afterMember _ _ => .error .endInObject
  | .skipping _ _ state stack => .error (skipFinish state stack)
  | .surplus => .error .trailingCharacters

/-- Reads a list of rows. -/
def parseRows (shape : RowShape) (text : String) : Except Fault (List Row) := do
  (← (tokens text.toList).foldlM (RowsState.step shape) .start).finish

end Catalog.Json
