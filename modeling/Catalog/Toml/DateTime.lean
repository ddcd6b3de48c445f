/-!
Dates and times of TOML documents, and the one way in which they are shown.
-/

namespace Catalog.Toml

/-- A day of the calendar. -/
structure Date where
  year : Nat
  month : Nat
  day : Nat
  deriving DecidableEq, Repr

/-- A time of day with nanoseconds. -/
structure Time where
  hour : Nat
  minute : Nat
  second : Nat
  nanosecond : Nat
  deriving DecidableEq, Repr

/-- The distance to universal time: none, by its letter, or in minutes. -/
inductive Offset
  | zulu
  | minutes (value : Int)
  deriving DecidableEq, Repr

/-- A day, a time of day, or a time on a day with or without an offset. -/
inductive DateTime
  | date (date : Date)
  | time (time : Time)
  | moment (date : Date) (time : Time) (offset : Option Offset)
  deriving DecidableEq, Repr

/-- A number with leading zeros up to a width. -/
def padded (width n : Nat) : List Char :=
  let digits := Nat.toDigits 10 n
  List.replicate (width - digits.length) '0' ++ digits

/-- A date as `YYYY-MM-DD`. -/
def Date.chars (d : Date) : List Char :=
  padded 4 d.year ++ '-' :: padded 2 d.month ++ '-' :: padded 2 d.day

/-- The fraction of a second without trailing zeros; nothing for a whole second. -/
def fractionChars (nanosecond : Nat) : List Char :=
  if nanosecond = 0 then []
  else '.' :: ((padded 9 nanosecond).reverse.dropWhile (· = '0')).reverse

/-- A time as `HH:MM:SS`, with a fraction if there is one. -/
def Time.chars (t : Time) : List Char :=
  padded 2 t.hour ++ ':' :: padded 2 t.minute ++ ':' :: padded 2 t.second
    ++ fractionChars t.nanosecond

/-- An offset: `Z`, or a sign with hours and minutes; no distance has a plus sign. -/
def Offset.chars : Offset → List Char
  | zulu => ['Z']
  | minutes value =>
    (if value < 0 then '-' else '+') :: padded 2 (value.natAbs / 60)
      ++ ':' :: padded 2 (value.natAbs % 60)

/-- A date and a time are joined by a `T`. -/
def DateTime.chars : DateTime → List Char
  | date d => d.chars
  | time t => t.chars
  | moment d t offset => d.chars ++ 'T' :: t.chars ++ (offset.map Offset.chars).getD []

/-- The text of a date-time. -/
def DateTime.text (d : DateTime) : String :=
  String.ofList d.chars

/-- The number of days of a month. -/
def daysIn (year month : Nat) : Nat :=
  if month = 2 then
    if year % 4 = 0 && (year % 100 ≠ 0 || year % 400 = 0) then 29 else 28
  else if month = 4 || month = 6 || month = 9 || month = 11 then 30
  else 31

end Catalog.Toml
