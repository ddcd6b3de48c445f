import Catalog.Toml.Grammar

/-!
Date-times that are spelled as tables. A table is marked by its first key; the text under that key
gives the date-time, and what follows in the table does not count.
-/

namespace Catalog.Toml

open Reader

/-- The key that marks a table as a date-time. -/
def datetimeKey : String :=
  "$__toml_private_datetime"

/-- What stands under the mark, if a table is marked. -/
def mark? : Table → Option Value
  | (key, value) :: _ => if key = datetimeKey then some value else none
  | [] => none

/-- A date-time that stands alone, as the text under the mark. Its parts have the bounds that they have
in documents: the hour of a time ends at 23, and so does the hour of an offset. What differs is that
behind a date, a delimiter has to be followed by a time. -/
def spelledDatetime : Reader DateTime := do
  if startsTime (← get) then return .time (← timeValue)
  let date ← dateValue
  match ← peek? with
  | some 'T' | some 't' | some ' ' =>
    set ((← get).drop 1)
    let time ← timeValue
    return .moment date time (← offsetValue)
  | _ => return .date date

/-- The date-time that is spelled by the whole of a text. -/
def DateTime.ofText? (text : String) : Option DateTime :=
  match spelledDatetime.run text.toList with
  | .ok (datetime, []) => some datetime
  | _ => none

example : DateTime.ofText? "1979-05-27T07:32:00+23:59"
    = some (.moment ⟨1979, 5, 27⟩ ⟨7, 32, 0, 0⟩ (some (.minutes 1439))) := by rfl

example : DateTime.ofText? "1979-05-27T07:32:00+24:00" = none := by rfl

namespace Value

mutual

/-- The value with every marked table replaced by its date-time; nothing if a marked table does not
give one. -/
def resolved? : Value → Option Value
  | array items => (resolvedItems? items).map .array
  | table entries =>
    match mark? entries with
    | some value => (value.string?.bind DateTime.ofText?).map .datetime
    | none => (resolvedEntries? entries).map .table
  | value => some value

/-- The items with every marked table replaced by its date-time. -/
def resolvedItems? : List Value → Option (List Value)
  | [] => some []
  | item :: rest => do
    let item ← item.resolved?
    return item :: (← resolvedItems? rest)

/-- The entries with every marked table replaced by its date-time. They are not looked at as a
table themselves. -/
def resolvedEntries? : List (String × Value) → Option (List (String × Value))
  | [] => some []
  | (key, value) :: rest => do
    let value ← value.resolved?
    return (key, value) :: (← resolvedEntries? rest)

end

end Value

end Catalog.Toml
