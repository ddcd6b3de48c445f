/-!
Reading bytes as UTF-8 text. A file has to be valid; the output of a program is read leniently, with
one replacement character for each maximal part that starts a sequence without completing it.
-/

namespace Catalog.Text

/-- The text a file holds, or nothing if it is not valid UTF-8. -/
def ofUtf8? (bytes : ByteArray) : Option String :=
  String.fromUTF8? bytes

/-- Where a reader stands: between characters, or inside one, with the bits read so far and the
bounds of the bytes that are still to come. -/
inductive Utf8State
  | between
  | inside (bits : Nat) (bounds : List (Nat × Nat))

/-- Any continuation byte. -/
def continuation : Nat × Nat :=
  (0x80, 0xBF)

/-- The character a byte is or starts, or nothing if no character starts with it. The bounds of the
second byte leave out overlong forms, surrogates and what lies beyond the last code point. -/
def leading? (byte : Nat) : Option Utf8State :=
  if byte < 0xC2 then none
  else if byte < 0xE0 then some (.inside (byte - 0xC0) [continuation])
  else if byte = 0xE0 then some (.inside 0 [(0xA0, 0xBF), continuation])
  else if byte = 0xED then some (.inside 0xD [(0x80, 0x9F), continuation])
  else if byte < 0xF0 then some (.inside (byte - 0xE0) [continuation, continuation])
  else if byte = 0xF0 then some (.inside 0 [(0x90, 0xBF), continuation, continuation])
  else if byte < 0xF4 then
    some (.inside (byte - 0xF0) [continuation, continuation, continuation])
  else if byte = 0xF4 then some (.inside 4 [(0x80, 0x8F), continuation, continuation])
  else none

/-- The replacement character. -/
def replacement : Char :=
  '\uFFFD'

/-- Reads a byte between characters. -/
def startUtf8 (byte : Nat) : List Char × Utf8State :=
  if byte < 0x80 then ([Char.ofNat byte], .between)
  else
    match leading? byte with
    | some state => ([], state)
    | none => ([replacement], .between)

/-- Reads one byte: the characters it completes, and where the reader stands then. -/
def stepUtf8 (state : Utf8State) (byte : Nat) : List Char × Utf8State :=
  match state with
  | .inside bits ((low, high) :: bounds) =>
    if low ≤ byte && byte ≤ high then
      let bits := bits * 64 + (byte - 0x80)
      if bounds.isEmpty then ([Char.ofNat bits], .between) else ([], .inside bits bounds)
    else
      let (chars, state) := startUtf8 byte
      (replacement :: chars, state)
  | _ => startUtf8 byte

/-- Reads bytes from a state to their end; an incomplete character at the end is replaced. -/
def decodeFrom : Utf8State → List UInt8 → List Char
  | .between, [] => []
  | .inside _ _, [] => [replacement]
  | state, byte :: rest =>
    let (chars, next) := stepUtf8 state byte.toNat
    chars ++ decodeFrom next rest

/-- The text of the output of a program. -/
def ofUtf8Lossy (bytes : ByteArray) : String :=
  String.ofList (decodeFrom .between bytes.toList)

end Catalog.Text
