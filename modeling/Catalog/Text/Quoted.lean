import Catalog.Unicode.Printable

/-!
Text in double quotes, as diagnostics show it: quotes, backslashes and the common controls get short
escapes, and every other character that does not print gets its code point in braces.
-/

namespace Catalog.Text

/-- A number in lowercase hexadecimal. -/
def lowerHex (n : Nat) : List Char :=
  Nat.toDigits 16 n

/-- One character inside quotes. -/
def quoteChar (c : Char) : List Char :=
  match c with
  | '\x00' => ['\\', '0']
  | '\t' => ['\\', 't']
  | '\n' => ['\\', 'n']
  | '\r' => ['\\', 'r']
  | '"' => ['\\', '"']
  | '\\' => ['\\', '\\']
  | c =>
    if Unicode.isPrintable c then [c]
    else ['\\', 'u', '\x7b'] ++ lowerHex c.toNat ++ ['\x7d']

/-- Text in double quotes with escapes. -/
def quoted (s : String) : String :=
  String.ofList ('"' :: s.toList.flatMap quoteChar ++ ['"'])

end Catalog.Text
