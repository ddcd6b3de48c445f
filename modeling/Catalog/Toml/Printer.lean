import Catalog.Toml.Value

/-!
Writing a TOML value on one line, as it stands behind a key. A string takes the first kind of quotes
that needs no escapes.
-/

namespace Catalog.Toml

/-- A control character that needs an escape in any string. Line feeds and tabs are none. -/
def isControl (c : Char) : Bool :=
  (c.toNat < 0x20 && c ≠ '\n' && c ≠ '\t') || c.toNat = 0x7F

/-- The most of a character that stand side by side. -/
def longestRun (c : Char) (s : List Char) : Nat :=
  (s.foldl (fun (longest, run) x =>
    let run := if x = c then run + 1 else 0
    (max longest run, run)) (0, 0)).1

/-- Four digits of a code point in uppercase hexadecimal. -/
def upperHex (n : Nat) : List Char :=
  let digits := (Nat.toDigits 16 n).map Char.toUpper
  List.replicate (4 - digits.length) '0' ++ digits

/-- The escape of a character that has a short one. -/
def shortEscape? : Char → Option Char
  | '\x08' => some 'b'
  | '\t' => some 't'
  | '\n' => some 'n'
  | '\x0c' => some 'f'
  | '\r' => some 'r'
  | '\\' => some '\\'
  | _ => none

/-- The text of an escaped string. Over several lines, line feeds stand for themselves and only the
third quote of a run is escaped; `run` counts the quotes just before. -/
def escapeBasic (multiline : Bool) (run : Nat) : List Char → List Char
  | [] => []
  | '"' :: rest =>
    if multiline && run < 2 then '"' :: escapeBasic multiline (run + 1) rest
    else '\\' :: '"' :: escapeBasic multiline 0 rest
  | c :: rest =>
    let written :=
      if multiline && c = '\n' then [c]
      else
        match shortEscape? c with
        | some letter => ['\\', letter]
        | none => if isControl c then '\\' :: 'u' :: upperHex c.toNat else [c]
    written ++ escapeBasic multiline 0 rest

/-- A string in double quotes. -/
def basicChars (s : List Char) : List Char :=
  '"' :: escapeBasic false 0 s ++ ['"']

/-- A string in single quotes, where nothing is escaped. -/
def literalChars (s : List Char) : List Char :=
  '\'' :: s ++ ['\'']

/-- A string in quotes. Those without escapes are preferred; a tab does not count as one, although
double quotes write it as an escape. -/
def stringChars (s : List Char) : List Char :=
  let control := s.any isControl
  let newline := '\n' ∈ s
  let opening := if newline then ['\n'] else []
  let longBasic := "\"\"\"".toList ++ opening ++ escapeBasic true 0 s ++ "\"\"\"".toList
  if !control && !newline && '\\' ∉ s && '"' ∉ s then basicChars s
  else if !control && !newline && '\'' ∉ s then literalChars s
  else if !control && '\\' ∉ s && longestRun '"' s < 3 then longBasic
  else if !control && longestRun '\'' s < 3 then "'''".toList ++ opening ++ s ++ "'''".toList
  else if newline then longBasic
  else basicChars s

/-- A character of a key without quotes. -/
def isBareKey (c : Char) : Bool :=
  c.isAlphanum || c = '_' || c = '-'

/-- A key, in quotes if it needs them. -/
def keyChars (s : List Char) : List Char :=
  let plain := !s.any isControl && '\n' ∉ s
  if s ≠ [] && s.all isBareKey then s
  else if plain && '\'' ∉ s && ('\\' ∈ s || '"' ∈ s) then literalChars s
  else basicChars s

/-- Pieces with a comma and a blank between them. -/
def commaJoined (pieces : List (List Char)) : List Char :=
  List.intercalate [',', ' '] pieces

namespace Value

mutual

/-- The text of a value on one line. -/
def inlineChars : Value → List Char
  | string s => stringChars s.toList
  | integer n => Decimal.intChars n
  | float x => floatChars "nan" x
  | boolean b => if b then "true".toList else "false".toList
  | datetime d => d.chars
  | array items => '[' :: commaJoined (inlineItems items) ++ [']']
  | table [] => ['\x7b', '\x7d']
  | table (entry :: rest) =>
    "\x7b ".toList ++ commaJoined (inlineEntries (entry :: rest)) ++ " \x7d".toList

/-- The texts of the items of an array. -/
def inlineItems : List Value → List (List Char)
  | [] => []
  | item :: rest => item.inlineChars :: inlineItems rest

/-- The texts of the entries of a table. -/
def inlineEntries : List (String × Value) → List (List Char)
  | [] => []
  | (key, value) :: rest =>
    (keyChars key.toList ++ " = ".toList ++ value.inlineChars) :: inlineEntries rest

end

/-- The text of a value on one line. -/
def inline (value : Value) : String :=
  String.ofList value.inlineChars

end Value

end Catalog.Toml
