import Catalog.Decimal.Reading
import Catalog.Json.Document
import Catalog.Json.Fault

/-!
Cutting JSON text into tokens. A value that a reader skips is checked less strictly than one that it
keeps: numbers have no range then, and surrogates need no partner. So a token carries the fault that
a strict reader finds in it, and a lexeme that breaks off carries the fault for either kind of
reader. Nothing is cut behind a lexeme that breaks off, since no reader gets past it.
-/

namespace Catalog.Json

/-- Square and curly brackets. -/
inductive Bracket
  | list
  | object
  deriving DecidableEq, Repr

/-- The pieces of JSON text. -/
inductive Token
  | opening (bracket : Bracket)
  | closing (bracket : Bracket)
  | comma
  | colon
  | null
  | bool (value : Bool)
  /-- A well-formed number: a whole number or a float. -/
  | number (strict : Except Fault Json)
  /-- A string whose closing quote is there. -/
  | string (strict : Except Fault String)
  /-- A string that breaks off, for a reader that keeps it and for one that skips it. -/
  | brokenString (strict lenient : Fault)
  /-- A number or a word that breaks off. -/
  | brokenScalar (strict lenient : Fault)
  /-- A character that starts nothing. -/
  | stray

/-- The blanks between tokens. -/
def isSpace (c : Char) : Bool :=
  c = ' ' || c = '\n' || c = '\t' || c = '\r'

/-! ### Strings -/

/-- The value of a hexadecimal digit. -/
def hexValue? (c : Char) : Option Nat :=
  let n := c.toNat
  if c.isDigit then some (n - 0x30)
  else if 'a' ≤ c && c ≤ 'f' then some (n - 0x61 + 10)
  else if 'A' ≤ c && c ≤ 'F' then some (n - 0x41 + 10)
  else none

/-- The value of a row of hexadecimal digits. -/
def hexNumber? (digits : List Char) : Option Nat :=
  digits.foldlM (fun value c => (hexValue? c).map (value * 16 + ·)) 0

/-- The character a single-letter escape stands for. -/
def simpleEscape? : Char → Option Char
  | '"' => some '"'
  | '\\' => some '\\'
  | '/' => some '/'
  | 'b' => some '\x08'
  | 'f' => some '\x0c'
  | 'n' => some '\n'
  | 'r' => some '\r'
  | 't' => some '\t'
  | _ => none

/-- The text of a string so far. A high surrogate waits for its partner; the first fault stays. -/
inductive StringText
  | text (reversed : List Char)
  | waiting (reversed : List Char) (high : Nat)
  | failed (fault : Fault)

/-- Adds a character that is not written as a code unit. -/
def StringText.push (c : Char) : StringText → StringText
  | text reversed => text (c :: reversed)
  | waiting _ _ => failed .brokenSurrogatePair
  | failed fault => failed fault

/-- Adds a code unit: a pair of surrogates makes one character. -/
def StringText.pushUnit (unit : Nat) : StringText → StringText
  | text reversed =>
    if 0xDC00 ≤ unit && unit ≤ 0xDFFF then failed .loneSurrogate
    else if 0xD800 ≤ unit && unit ≤ 0xDBFF then waiting reversed unit
    else text (Char.ofNat unit :: reversed)
  | waiting reversed high =>
    if 0xDC00 ≤ unit && unit ≤ 0xDFFF then
      text (Char.ofNat ((high - 0xD800) * 0x400 + (unit - 0xDC00) + 0x10000) :: reversed)
    else failed .loneSurrogate
  | failed fault => failed fault

/-- The text at the closing quote. -/
def StringText.close : StringText → Except Fault String
  | text reversed => .ok (String.ofList reversed.reverse)
  | waiting _ _ => .error .brokenSurrogatePair
  | failed fault => .error fault

/-- The fault of a strict reader where a lexeme breaks off in mid-escape or at the end. -/
def StringText.breakOff (fault : Fault) : StringText → Fault
  | failed first => first
  | _ => fault

/-- The fault of a strict reader where something else than a code unit stands wrongly. -/
def StringText.breakAt (fault : Fault) : StringText → Fault
  | failed first => first
  | waiting _ _ => .brokenSurrogatePair
  | text _ => fault

/-- A token, and the text behind it if the lexeme does not break off. -/
abbrev Lexeme := Token × Option (List Char)

/-- The rest of a string after its opening quote. An escaped code unit needs four digits within the
next four bytes. -/
def lexString (sofar : StringText) : List Char → Lexeme
  | [] => (.brokenString (sofar.breakOff .endInString) .endInString, none)
  | '"' :: rest => (.string sofar.close, some rest)
  | ['\\'] => (.brokenString (sofar.breakOff .endInString) .endInString, none)
  | '\\' :: 'u' :: a :: b :: c :: d :: rest =>
    match hexNumber? [a, b, c, d] with
    | some unit => lexString (sofar.pushUnit unit) rest
    | none => (.brokenString (sofar.breakOff .invalidEscape) .invalidEscape, none)
  | '\\' :: 'u' :: short =>
    let fault :=
      if (String.ofList short).utf8ByteSize < 4 then Fault.endInString else Fault.invalidEscape
    (.brokenString (sofar.breakOff fault) fault, none)
  | '\\' :: c :: rest =>
    match simpleEscape? c with
    | some char => lexString (sofar.push char) rest
    | none => (.brokenString (sofar.breakAt .invalidEscape) .invalidEscape, none)
  | c :: rest =>
    if c.toNat < 0x20 then
      (.brokenString (sofar.breakAt .controlCharacter) .controlCharacter, none)
    else lexString (sofar.push c) rest

/-! ### Numbers -/

/-- A number as written: digits before the point, digits after it and a signed exponent. -/
structure Numeral where
  negative : Bool
  whole : List Char
  fraction : List Char
  exponent : Option Int

/-- The value of a row of decimal digits. -/
def digitsValue (digits : List Char) : Nat :=
  digits.foldl (fun value c => value * 10 + (c.toNat - 0x30)) 0

/-- The largest natural number of 64 bits. -/
def wordLimit : Nat :=
  Decimal.twoTo 64 - 1

/-- Collects digits while the number fits 64 bits: the number, and the digits that are left over. -/
def collect (value : Nat) : List Char → Nat × List Char
  | [] => (value, [])
  | c :: rest =>
    let next := value * 10 + (c.toNat - 0x30)
    if wordLimit < next then (value, c :: rest) else collect next rest

/-- A float from the digits that fit 64 bits. Digits before the point that do not fit raise the
exponent, digits behind it that do fit lower it, and the others are dropped. -/
def Numeral.toFloat? (n : Numeral) : Option Float :=
  let (whole, dropped) := collect 0 n.whole
  let (digits, unread) := collect whole n.fraction
  let exponent := n.exponent.getD 0 + dropped.length - (n.fraction.length - unread.length : Nat)
  (Decimal.scaled? digits exponent).map fun x => if n.negative then -x else x

/-- The value of a numeral: a whole number if it is written as one and fits 64 bits, with a sign or
without; a float otherwise, negative zero included. -/
def Numeral.read (n : Numeral) : Except Fault Json :=
  let value := digitsValue n.whole
  let fits := if n.negative then 0 < value && value ≤ Decimal.twoTo 63 else value ≤ wordLimit
  if n.fraction.isEmpty && n.exponent.isNone && fits then
    .ok (.int (if n.negative then -(value : Int) else value))
  else
    match n.toFloat? with
    | some x => .ok (.float x)
    | none => .error .numberOutOfRange

/-- The fault where a digit is missing: a strict reader tells the end of the text apart. -/
def missingDigit (rest : List Char) : Lexeme :=
  (.brokenScalar (if rest.isEmpty then .endInValue else .invalidNumber) .invalidNumber, none)

/-- The sign of an exponent, positive if there is none, and the text behind it. -/
def exponentSign : List Char → Bool × List Char
  | '+' :: rest => (false, rest)
  | '-' :: rest => (true, rest)
  | s => (false, s)

/-- The numeral with an exponent. -/
def Numeral.raised (n : Numeral) (negative : Bool) (digits : List Char) : Numeral :=
  { n with exponent := some (if negative then -(digitsValue digits : Int) else digitsValue digits) }

/-- The digits of the exponent of a numeral, and the end of the number. -/
def lexExponentDigits (n : Numeral) (negative : Bool) (s : List Char) : Lexeme :=
  if (s.takeWhile Char.isDigit).isEmpty then missingDigit s
  else (.number (n.raised negative (s.takeWhile Char.isDigit)).read,
    some (s.dropWhile Char.isDigit))

/-- The part of a numeral after its digits with or without a fraction: an exponent or nothing. -/
def lexTail (n : Numeral) : List Char → Lexeme
  | 'e' :: rest => lexExponentDigits n (exponentSign rest).1 (exponentSign rest).2
  | 'E' :: rest => lexExponentDigits n (exponentSign rest).1 (exponentSign rest).2
  | s => (.number n.read, some s)

/-- The fraction of a numeral, which needs a digit. -/
def lexFraction (n : Numeral) (s : List Char) : Lexeme :=
  if (s.takeWhile Char.isDigit).isEmpty then missingDigit s
  else lexTail { n with fraction := s.takeWhile Char.isDigit } (s.dropWhile Char.isDigit)

/-- The part of a numeral after its whole digits. -/
def lexAfterWhole (n : Numeral) : List Char → Lexeme
  | '.' :: rest => lexFraction n rest
  | s => lexTail n s

/-- A number after its sign. A zero is not followed by another digit. -/
def lexNumber (negative : Bool) (s : List Char) : Lexeme :=
  match s.takeWhile Char.isDigit with
  | [] => missingDigit s
  | '0' :: _ :: _ => (.brokenScalar .invalidNumber .invalidNumber, none)
  | whole => lexAfterWhole ⟨negative, whole, [], none⟩ (s.dropWhile Char.isDigit)

/-! ### Words and the rest -/

/-- The rest of a word whose first letter is read. -/
def lexWord (token : Token) : List Char → List Char → Lexeme
  | [], s => (token, some s)
  | _ :: _, [] => (.brokenScalar .endInValue .endInValue, none)
  | letter :: letters, c :: rest =>
    if c = letter then lexWord token letters rest
    else (.brokenScalar .expectedIdentifier .expectedIdentifier, none)

/-- The token that starts with a character. -/
def lexeme (c : Char) (rest : List Char) : Lexeme :=
  match c with
  | '[' => (.opening .list, some rest)
  | ']' => (.closing .list, some rest)
  | '\x7b' => (.opening .object, some rest)
  | '\x7d' => (.closing .object, some rest)
  | ',' => (.comma, some rest)
  | ':' => (.colon, some rest)
  | '"' => lexString (.text []) rest
  | 'n' => lexWord .null ['u', 'l', 'l'] rest
  | 't' => lexWord (.bool true) ['r', 'u', 'e'] rest
  | 'f' => lexWord (.bool false) ['a', 'l', 's', 'e'] rest
  | '-' => lexNumber true rest
  | c => if c.isDigit then lexNumber false (c :: rest) else (.stray, some rest)

/-! ### Each token takes at least its first character -/

theorem length_dropWhile_le (p : Char → Bool) (s : List Char) :
    (s.dropWhile p).length ≤ s.length :=
  (List.dropWhile_suffix p).length_le

theorem lexString_length {sofar : StringText} {s : List Char} {token : Token} {rest : List Char}
    (h : lexString sofar s = (token, some rest)) : rest.length ≤ s.length := by
  fun_induction lexString sofar s generalizing rest <;> simp_all <;> omega

theorem exponentSign_length (s : List Char) : (exponentSign s).2.length ≤ s.length := by
  unfold exponentSign
  split <;> simp

theorem lexExponentDigits_length {n : Numeral} {negative : Bool} {s : List Char} {token : Token}
    {rest : List Char} (h : lexExponentDigits n negative s = (token, some rest)) :
    rest.length ≤ s.length := by
  unfold lexExponentDigits missingDigit at h
  split at h
  · simp at h
  · simp only [Prod.mk.injEq, Option.some.injEq] at h
    exact h.2 ▸ length_dropWhile_le _ _

theorem lexTail_length {n : Numeral} {s : List Char} {token : Token} {rest : List Char}
    (h : lexTail n s = (token, some rest)) : rest.length ≤ s.length := by
  unfold lexTail at h
  split at h
  case h_3 => simp only [Prod.mk.injEq, Option.some.injEq] at h; simp [h.2]
  all_goals
    refine Nat.le_trans (lexExponentDigits_length h) (Nat.le_trans (exponentSign_length _) ?_)
    simp

theorem lexFraction_length {n : Numeral} {s : List Char} {token : Token} {rest : List Char}
    (h : lexFraction n s = (token, some rest)) : rest.length ≤ s.length := by
  unfold lexFraction missingDigit at h
  split at h
  · simp at h
  · exact Nat.le_trans (lexTail_length h) (length_dropWhile_le _ _)

theorem lexAfterWhole_length {n : Numeral} {s : List Char} {token : Token} {rest : List Char}
    (h : lexAfterWhole n s = (token, some rest)) : rest.length ≤ s.length := by
  unfold lexAfterWhole at h
  split at h
  · exact Nat.le_trans (lexFraction_length h) (by simp)
  · exact lexTail_length h

theorem lexNumber_length {negative : Bool} {s : List Char} {token : Token} {rest : List Char}
    (h : lexNumber negative s = (token, some rest)) :
    rest.length ≤ (s.dropWhile Char.isDigit).length := by
  unfold lexNumber missingDigit at h
  split at h
  · simp at h
  · simp at h
  · exact lexAfterWhole_length h

theorem lexWord_length {word : Token} {letters s : List Char} {token : Token} {rest : List Char}
    (h : lexWord word letters s = (token, some rest)) : rest.length ≤ s.length := by
  fun_induction lexWord word letters s with
  | case1 s => simp_all
  | case2 => simp at h
  | case3 letters c s ih => exact Nat.le_trans (ih h) (by simp)
  | case4 => simp at h

theorem lexeme_length {c : Char} {s : List Char} {token : Token} {rest : List Char}
    (h : lexeme c s = (token, some rest)) : rest.length ≤ s.length := by
  unfold lexeme at h
  split at h
  all_goals first
    | exact lexString_length h
    | exact lexWord_length h
    | exact Nat.le_trans (lexNumber_length h) (length_dropWhile_le _ _)
    | (simp only [Prod.mk.injEq, Option.some.injEq] at h; simp [h.2])
    | skip
  split at h
  · rename_i hd
    refine Nat.le_trans (lexNumber_length h) ?_
    rw [List.dropWhile_cons_of_pos hd]
    exact length_dropWhile_le _ _
  · simp only [Prod.mk.injEq, Option.some.injEq] at h
    simp [h.2]

/-- The tokens of a text, up to the first lexeme that breaks off. -/
def tokens : List Char → List Token
  | [] => []
  | c :: rest =>
    if isSpace c then tokens rest
    else
      match _h : lexeme c rest with
      | (token, none) => [token]
      | (token, some behind) => token :: tokens behind
termination_by s => s.length
decreasing_by
  · simp
  · exact Nat.lt_succ_of_le (lexeme_length _h)

end Catalog.Json
