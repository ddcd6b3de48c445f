import Catalog.Decimal.Reading
import Catalog.Json.Token
import Catalog.Toml.Syntax

/-!
The grammar of TOML documents. A reader takes the front of the text and leaves the rest; where it
stops, it leaves the text it could not read.
-/

namespace Catalog.Toml

/-- A reader of the front of a text. A failure holds the text that is left. -/
abbrev Reader (α : Type) := StateT (List Char) (Except (List Char)) α

namespace Reader

/-- Stops here. -/
def stop {α : Type} : Reader α := do
  throw (← get)

/-- The next character, if there is one. -/
def peek? : Reader (Option Char) := do
  return (← get).head?

/-- Takes a given text. -/
def exactly (text : List Char) : Reader Unit := do
  match text.isPrefixOf? (← get) with
  | some rest => set rest
  | none => stop

/-- Takes a given text if it comes next, and tells whether it did. -/
def optionally (text : List Char) : Reader Bool := do
  match text.isPrefixOf? (← get) with
  | some rest =>
    set rest
    return true
  | none => return false

/-- Takes all characters of a class that come next. -/
def takeWhile (p : Char → Bool) : Reader (List Char) := do
  let s ← get
  set (s.dropWhile p)
  return s.takeWhile p

/-- Runs a function that gives a result and the rest of the text. -/
def through {α : Type} (f : List Char → Except (List Char) (α × List Char)) : Reader α :=
  fun s => f s

/-- Reads items as long as the check on the rest of the text allows one more, at most as many as
`bound` is long. -/
def many {α : Type} (more : List Char → Bool) (item : Reader α) : List Char → Reader (List α)
  | [] => return []
  | _ :: bound => do
    if more (← get) then
      let first ← item
      return first :: (← many more item bound)
    else return []

/-- Reads items as long as the check on the rest of the text allows one more. Each item takes at
least one character, so the text is no shorter than the list of items. -/
def repeatWhile {α : Type} (more : List Char → Bool) (item : Reader α) : Reader (List α) := do
  many more item (← get)

end Reader

open Reader

/-! ### Blanks, comments and line ends -/

/-- Blanks within a line. -/
def isInlineBlank (c : Char) : Bool :=
  c = ' ' || c = '\t'

/-- A character of a comment: anything but the controls, with the tab allowed. -/
def isCommentChar (c : Char) : Bool :=
  c = '\t' || (0x20 ≤ c.toNat && c.toNat ≠ 0x7F)

/-- Skips blanks within a line. -/
def inlineBlanks : Reader Unit := do
  let _ ← takeWhile isInlineBlank

/-- The rest behind a line end, if one comes next. -/
def lineEnd? : List Char → Option (List Char)
  | '\n' :: rest => some rest
  | '\r' :: '\n' :: rest => some rest
  | _ => none

/-- Takes a line end or the end of the text. -/
def endOfLine : Reader Unit := do
  let s ← get
  match lineEnd? s with
  | some rest => set rest
  | none => if s ≠ [] then stop

/-- Takes a comment if one comes next. -/
def comment : Reader Unit := do
  if ← optionally ['#'] then
    let _ ← takeWhile isCommentChar

/-- Takes what may follow a statement on its line. -/
def restOfLine : Reader Unit := do
  inlineBlanks
  comment
  endOfLine

/-- Whether a blank, a comment or a line end comes next. -/
def startsBlank : List Char → Bool
  | c :: rest => isInlineBlank c || c = '#' || (lineEnd? (c :: rest)).isSome
  | [] => false

/-- Takes a blank, a comment or a line end. -/
def blankOrLine : Reader Unit := do
  match ← peek? with
  | some '#' => comment
  | some c => if isInlineBlank c then inlineBlanks else endOfLine
  | none => stop

/-- Skips blanks, comments and line ends. -/
def blanksAndLines : Reader Unit := do
  let _ ← repeatWhile startsBlank blankOrLine

/-! ### Strings -/

/-- A character that stands for itself in a string: anything but the controls, with the tab
allowed. -/
def isStringChar (c : Char) : Bool :=
  isCommentChar c

/-- The character of a code point, if there is one. -/
def charOf? (n : Nat) : Option Char :=
  if n.isValidChar then some (Char.ofNat n) else none

/-- The character a code point escape stands for. -/
def escapedCodePoint? (digits : List Char) : Option Char :=
  (Json.hexNumber? digits).bind charOf?

/-- The character an escape of one letter stands for. -/
def escapedLetter? : Char → Option Char
  | 'b' => some '\x08'
  | 't' => some '\t'
  | 'n' => some '\n'
  | 'f' => some '\x0c'
  | 'r' => some '\r'
  | '"' => some '"'
  | '\\' => some '\\'
  | _ => none

/-- A string in double quotes, after the opening one. -/
def basicString (sofar : List Char) : List Char → Except (List Char) (String × List Char)
  | '"' :: rest => .ok (String.ofList sofar.reverse, rest)
  | '\\' :: 'u' :: a :: b :: c :: d :: rest =>
    match escapedCodePoint? [a, b, c, d] with
    | some char => basicString (char :: sofar) rest
    | none => .error rest
  | '\\' :: 'U' :: a :: b :: c :: d :: e :: f :: g :: h :: rest =>
    match escapedCodePoint? [a, b, c, d, e, f, g, h] with
    | some char => basicString (char :: sofar) rest
    | none => .error rest
  | '\\' :: letter :: rest =>
    match escapedLetter? letter with
    | some char => basicString (char :: sofar) rest
    | none => .error rest
  | c :: rest => if isStringChar c then basicString (c :: sofar) rest else .error (c :: rest)
  | [] => .error []

/-- Whether a line end comes next, after blanks. -/
def endsLine (s : List Char) : Bool :=
  (lineEnd? (s.dropWhile isInlineBlank)).isSome

/-- A string in three double quotes, after the opening ones. Up to two more quotes may stand before
the closing ones. A backslash at the end of a line skips all blanks and line ends behind it;
`skipping` holds there. -/
def multilineBasicString (skipping : Bool) (sofar : List Char) :
    List Char → Except (List Char) (String × List Char)
  | '"' :: '"' :: '"' :: '"' :: '"' :: rest =>
    .ok (String.ofList ('"' :: '"' :: sofar).reverse, rest)
  | '"' :: '"' :: '"' :: '"' :: rest => .ok (String.ofList ('"' :: sofar).reverse, rest)
  | '"' :: '"' :: '"' :: rest => .ok (String.ofList sofar.reverse, rest)
  | '\r' :: '\n' :: rest =>
    multilineBasicString skipping (if skipping then sofar else '\n' :: sofar) rest
  | '\n' :: rest => multilineBasicString skipping (if skipping then sofar else '\n' :: sofar) rest
  | '\\' :: 'u' :: a :: b :: c :: d :: rest =>
    match escapedCodePoint? [a, b, c, d] with
    | some char => multilineBasicString false (char :: sofar) rest
    | none => .error rest
  | '\\' :: 'U' :: a :: b :: c :: d :: e :: f :: g :: h :: rest =>
    match escapedCodePoint? [a, b, c, d, e, f, g, h] with
    | some char => multilineBasicString false (char :: sofar) rest
    | none => .error rest
  | '\\' :: letter :: rest =>
    match escapedLetter? letter with
    | some char => multilineBasicString false (char :: sofar) rest
    | none =>
      if endsLine (letter :: rest) then multilineBasicString true sofar (letter :: rest)
      else .error rest
  | c :: rest =>
    if skipping && isInlineBlank c then multilineBasicString true sofar rest
    else if isStringChar c then multilineBasicString false (c :: sofar) rest
    else .error (c :: rest)
  | [] => .error []

/-- A string in single quotes, after the opening one. -/
def literalString (sofar : List Char) : List Char → Except (List Char) (String × List Char)
  | '\'' :: rest => .ok (String.ofList sofar.reverse, rest)
  | c :: rest => if isStringChar c then literalString (c :: sofar) rest else .error (c :: rest)
  | [] => .error []

/-- A string in three single quotes, after the opening ones. -/
def multilineLiteralString (sofar : List Char) :
    List Char → Except (List Char) (String × List Char)
  | '\'' :: '\'' :: '\'' :: '\'' :: '\'' :: rest =>
    .ok (String.ofList ('\'' :: '\'' :: sofar).reverse, rest)
  | '\'' :: '\'' :: '\'' :: '\'' :: rest => .ok (String.ofList ('\'' :: sofar).reverse, rest)
  | '\'' :: '\'' :: '\'' :: rest => .ok (String.ofList sofar.reverse, rest)
  | '\r' :: '\n' :: rest => multilineLiteralString ('\n' :: sofar) rest
  | '\n' :: rest => multilineLiteralString ('\n' :: sofar) rest
  | c :: rest =>
    if isStringChar c then multilineLiteralString (c :: sofar) rest else .error (c :: rest)
  | [] => .error []

/-- A line end right behind the opening quotes of a string of several lines does not belong to it.
-/
def afterOpening (s : List Char) : List Char :=
  (lineEnd? s).getD s

/-- A string in any kind of quotes. -/
def stringValue : Reader String := do
  if ← optionally ['"', '"', '"'] then
    through fun s => multilineBasicString false [] (afterOpening s)
  else if ← optionally ['"'] then through (basicString [])
  else if ← optionally ['\'', '\'', '\''] then
    through fun s => multilineLiteralString [] (afterOpening s)
  else
    exactly ['\'']
    through (literalString [])

/-! ### Keys -/

/-- A character of a key without quotes. -/
def isKeyChar (c : Char) : Bool :=
  c.isAlphanum || c = '_' || c = '-'

/-- A key without quotes. -/
def bareKey : Reader String := do
  let chars ← takeWhile isKeyChar
  if chars.isEmpty then stop
  return String.ofList chars

/-- A key without quotes, or in quotes of either kind on one line. -/
def simpleKey : Reader String := do
  if ← optionally ['"'] then through (basicString [])
  else if ← optionally ['\''] then through (literalString [])
  else bareKey

/-- One part of a dotted key. -/
def keyPart : Reader String := do
  inlineBlanks
  let part ← simpleKey
  inlineBlanks
  return part

/-- The most parts a dotted key may have. -/
def keyLimit : Nat :=
  79

/-- A dotted key: the path and the last part. -/
def dottedKey : Reader (List String × String) := do
  let first ← keyPart
  let later ← repeatWhile (·.head? = some '.') (do exactly ['.']; keyPart)
  if keyLimit ≤ later.length then stop
  let parts := first :: later
  return (parts.dropLast, parts.getLast (by simp [parts]))

/-! ### Dates and times -/

/-- A number of exactly so many digits. -/
def fixedDigits (width : Nat) : Reader Nat := do
  let digits := (← get).take width
  if digits.length = width && digits.all Char.isDigit then
    set ((← get).drop width)
    return Json.digitsValue digits
  else stop

/-- A number of two digits within bounds. -/
def twoDigits (least most : Nat) : Reader Nat := do
  let n ← fixedDigits 2
  if least ≤ n && n ≤ most then return n else stop

/-- A day that the calendar has. -/
def dateValue : Reader Date := do
  let year ← fixedDigits 4
  exactly ['-']
  let month ← twoDigits 1 12
  exactly ['-']
  let day ← twoDigits 1 (daysIn year month)
  return ⟨year, month, day⟩

/-- The nanoseconds of a fraction of a second; digits beyond the ninth are cut off. -/
def nanoseconds (digits : List Char) : Nat :=
  Json.digitsValue ((digits ++ List.replicate 9 '0').take 9)

/-- A time of day. A second may be a leap second. -/
def timeValue : Reader Time := do
  let hour ← twoDigits 0 23
  exactly [':']
  let minute ← twoDigits 0 59
  exactly [':']
  let second ← twoDigits 0 60
  let mut nanosecond := 0
  if ← optionally ['.'] then
    let digits ← takeWhile Char.isDigit
    if digits.isEmpty then stop
    nanosecond := nanoseconds digits
  return ⟨hour, minute, second, nanosecond⟩

/-- The offset behind a time, if there is one. -/
def offsetValue : Reader (Option Offset) := do
  match ← peek? with
  | some 'Z' | some 'z' =>
    set ((← get).drop 1)
    return some .zulu
  | some '+' | some '-' =>
    let negative ← optionally ['-']
    if !negative then exactly ['+']
    let hour ← twoDigits 0 23
    exactly [':']
    let minute ← twoDigits 0 59
    let minutes : Int := hour * 60 + minute
    return some (.minutes (if negative then -minutes else minutes))
  | _ => return none

/-- Whether two digits and a colon come next. -/
def startsTime : List Char → Bool
  | a :: b :: ':' :: _ => a.isDigit && b.isDigit
  | _ => false

/-- Whether four digits and a hyphen come next. -/
def startsDate : List Char → Bool
  | a :: b :: c :: d :: '-' :: _ => a.isDigit && b.isDigit && c.isDigit && d.isDigit
  | _ => false

/-- Whether a delimiter and a time come next, behind a date. -/
def continuesDate : List Char → Bool
  | c :: rest => (c = 'T' || c = 't' || c = ' ') && startsTime rest
  | [] => false

/-- A date-time. -/
def datetimeValue : Reader DateTime := do
  if startsTime (← get) then return .time (← timeValue)
  let date ← dateValue
  if continuesDate (← get) then
    set ((← get).drop 1)
    let time ← timeValue
    return .moment date time (← offsetValue)
  else return .date date

/-! ### Numbers -/

/-- A digit of a base. -/
def isBaseDigit (base : Nat) (c : Char) : Bool :=
  match Json.hexValue? c with
  | some n => n < base
  | none => false

/-- More digits of a base. An underscore stands between two digits. -/
def moreDigits (base : Nat) : List Char → Except (List Char) (List Char × List Char)
  | '_' :: c :: rest =>
    if isBaseDigit base c then
      (moreDigits base rest).map fun (digits, left) => (c :: digits, left)
    else .error (c :: rest)
  | c :: rest =>
    if isBaseDigit base c then
      (moreDigits base rest).map fun (digits, left) => (c :: digits, left)
    else if c = '_' then .error rest
    else .ok ([], c :: rest)
  | [] => .ok ([], [])

/-- One or more digits of a base, without the underscores between them. -/
def digitRun (base : Nat) : Reader (List Char) := do
  match ← peek? with
  | some c =>
    if isBaseDigit base c then
      set ((← get).drop 1)
      return c :: (← through (moreDigits base))
    else stop
  | none => stop

/-- The value of a row of digits of a base. -/
def baseValue (base : Nat) (digits : List Char) : Nat :=
  digits.foldl (fun value c => value * base + (Json.hexValue? c).getD 0) 0

/-- The largest whole number. -/
def integerLimit : Nat :=
  Decimal.twoTo 63 - 1

/-- A whole number of 64 bits with a sign. -/
def integerOf (negative : Bool) (magnitude : Nat) : Reader Int := do
  if negative then
    if magnitude ≤ integerLimit + 1 then return -(magnitude : Int) else stop
  else
    if magnitude ≤ integerLimit then return magnitude else stop

/-- The digits before the point: a zero stands alone. -/
def wholeDigits : Reader (List Char) := do
  if ← optionally ['0'] then return ['0'] else digitRun 10

/-- The exponent of a float, if there is one. -/
def exponentValue : Reader (Option Int) := do
  match ← peek? with
  | some 'e' | some 'E' =>
    set ((← get).drop 1)
    let negative ← optionally ['-']
    if !negative then
      let _ ← optionally ['+']
    let value : Int := baseValue 10 (← digitRun 10)
    return some (if negative then -value else value)
  | _ => return none

/-- A float of given digits. One that is too large for a float is refused; one that is too small
goes to the negative infinity. -/
def floatOf (negative : Bool) (digits : List Char) (exponent : Int) : Reader Float := do
  let x := Decimal.nearest (baseValue 10 digits) exponent
  if negative then return -x
  if x.isInf then stop else return x

/-- A decimal number after its sign: a float if it has a fraction or an exponent. -/
def decimalNumber (negative : Bool) : Reader Expr := do
  let whole ← wholeDigits
  if ← optionally ['.'] then
    let fraction ← digitRun 10
    let exponent := (← exponentValue).getD 0
    return .float (← floatOf negative (whole ++ fraction) (exponent - fraction.length))
  match ← exponentValue with
  | some exponent => return .float (← floatOf negative whole exponent)
  | none => return .integer (← integerOf negative (baseValue 10 whole))

/-- Not a number. -/
def notANumber : Float :=
  0 / 0

/-- Infinity. -/
def infinity : Float :=
  1 / 0

/-- A number. A sign stands before decimal numbers and the special floats, but not before a base. -/
def number : Reader Expr := do
  let negative ← optionally ['-']
  let signed ← if negative then pure true else optionally ['+']
  if ← optionally ['i', 'n', 'f'] then return .float (if negative then -infinity else infinity)
  if ← optionally ['n', 'a', 'n'] then return .float notANumber
  if signed then return ← decimalNumber negative
  if ← optionally ['0', 'x'] then
    return .integer (← integerOf false (baseValue 16 (← digitRun 16)))
  if ← optionally ['0', 'o'] then
    return .integer (← integerOf false (baseValue 8 (← digitRun 8)))
  if ← optionally ['0', 'b'] then
    return .integer (← integerOf false (baseValue 2 (← digitRun 2)))
  decimalNumber false

/-! ### Values -/

/-- Items separated by commas, up to a closing character that does not belong to them. A comma may
follow the last item if `trailing` holds. -/
def separated {α : Type} (trailing : Bool) (blanks : Reader Unit) (closing : Char)
    (item : Reader α) : Reader (List α) := do
  blanks
  if (← peek?) = some closing then return []
  let first ← item
  blanks
  let more (s : List Char) : Bool :=
    match s with
    | ',' :: rest => !(trailing && (blanks.run rest).toOption.any (·.2.head? = some closing))
    | _ => false
  let later ← repeatWhile more do
    exactly [',']
    blanks
    let next ← item
    blanks
    return next
  if trailing then
    let _ ← optionally [',']
    blanks
  return first :: later

/-- An entry of a table in braces. -/
def bracesEntry (value : Reader Expr) : Reader (List String × String × Expr) := do
  let (path, key) ← dottedKey
  exactly ['=']
  inlineBlanks
  let value ← value
  return (path, key, value)

/-- A value without brackets or braces. -/
def scalar (s : List Char) : Reader Expr := do
  match s with
  | '"' :: _ | '\'' :: _ => return .string (← stringValue)
  | 't' :: _ =>
    exactly ['t', 'r', 'u', 'e']
    return .boolean true
  | 'f' :: _ =>
    exactly ['f', 'a', 'l', 's', 'e']
    return .boolean false
  | _ =>
    if startsDate s || startsTime s then return .datetime (← datetimeValue)
    number

/-- A value in which arrays and tables in braces are nested at most `depth` deep. -/
def value : Nat → Reader Expr
  | 0 => do scalar (← get)
  | depth + 1 => do
    match ← get with
    | '[' :: rest =>
      set rest
      let items ← separated true blanksAndLines ']' (value depth)
      exactly [']']
      return .array items
    | '\x7b' :: rest =>
      set rest
      let entries ← separated false inlineBlanks '\x7d' (bracesEntry (value depth))
      exactly ['\x7d']
      return .braces entries
    | s => scalar s

/-- How deep values may be nested. -/
def valueDepth : Nat :=
  79

/-! ### Documents -/

/-- A header between brackets, after the opening ones. -/
def header (closing : List Char) : Reader (List String × String) := do
  let key ← dottedKey
  exactly closing
  return key

/-- A key with its value. -/
def keyValue : Reader Statement := do
  let (path, key) ← dottedKey
  exactly ['=']
  inlineBlanks
  return .entry path key (← value valueDepth)

/-- A statement without the rest of its line. -/
def bareStatement : Reader Statement := do
  if ← optionally ['[', '['] then
    let (path, key) ← header [']', ']']
    return .element path key
  else if ← optionally ['['] then
    let (path, key) ← header [']']
    return .table path key
  else keyValue

/-- A statement with the rest of its line. -/
def statement : Reader Statement := do
  let statement ← bareStatement
  restOfLine
  return statement

/-- All statements of a document. -/
def statements : Reader (List Statement) := do
  let _ ← optionally ['\uFEFF']
  blanksAndLines
  repeatWhile (· ≠ []) do
    let statement ← statement
    blanksAndLines
    return statement

end Catalog.Toml
