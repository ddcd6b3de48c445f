import Catalog.Json.Token

/-!
Reading JSON documents. The reader is a pushdown automaton over tokens: its state is the stack of
the containers that are still open and what may come next.
-/

namespace Catalog.Json

/-- A container that waits for a value to be complete: the items of a list so far, in reverse, or
the members of an object so far and the key of the value. -/
inductive Frame
  | list (items : List Json)
  | object (members : List (String × Json)) (key : String)

/-- Where a reader stands, with the containers around the current one, innermost first. -/
inductive ReaderState
  /-- A value has to come. -/
  | value (stack : List Frame)
  /-- A list was opened. -/
  | itemOrEnd (stack : List Frame)
  /-- An item has to come, after a comma. -/
  | item (items : List Json) (stack : List Frame)
  /-- An item of a list is complete. -/
  | afterItem (items : List Json) (stack : List Frame)
  /-- An object was opened. -/
  | keyOrEnd (stack : List Frame)
  /-- A key has to come, after a comma. -/
  | key (members : List (String × Json)) (stack : List Frame)
  /-- A key was read. -/
  | afterKey (members : List (String × Json)) (key : String) (stack : List Frame)
  /-- A member of an object is complete. -/
  | afterMember (members : List (String × Json)) (stack : List Frame)
  /-- The document is complete. -/
  | finished (document : Json)

/-- The most containers that may be open at once. -/
def depthLimit : Nat :=
  127

/-- Puts a complete value into the innermost open container. -/
def complete (value : Json) : List Frame → ReaderState
  | [] => .finished value
  | .list items :: stack => .afterItem (value :: items) stack
  | .object members key :: stack => .afterMember (Keyed.put members key value) stack

/-- Reads a token where a value has to come. -/
def readValue (stack : List Frame) : Token → Except Fault ReaderState
  | .opening bracket =>
    if depthLimit ≤ stack.length then .error .tooDeep
    else
      match bracket with
      | .list => .ok (.itemOrEnd stack)
      | .object => .ok (.keyOrEnd stack)
  | .null => .ok (complete .null stack)
  | .bool value => .ok (complete (.bool value) stack)
  | .number strict => strict.map (complete · stack)
  | .string strict => strict.map fun s => complete (.str s) stack
  | .brokenString strict _ => .error strict
  | .brokenScalar strict _ => .error strict
  | .closing _ | .comma | .colon | .stray => .error .expectedValue

/-- Reads a token where a key has to come. -/
def readKey : Token → Except Fault String
  | .string strict => strict
  | .brokenString strict _ => .error strict
  | _ => .error .keyNotString

/-- Reads one token. -/
def ReaderState.step : ReaderState → Token → Except Fault ReaderState
  | .value stack, token => readValue stack token
  | .itemOrEnd stack, .closing .list => .ok (complete (.arr []) stack)
  | .itemOrEnd stack, token => readValue (.list [] :: stack) token
  | .item _ _, .closing .list => .error .trailingComma
  | .item items stack, token => readValue (.list items :: stack) token
  | .afterItem items stack, .comma => .ok (.item items stack)
  | .afterItem items stack, .closing .list => .ok (complete (.arr items.reverse) stack)
  | .afterItem _ _, _ => .error .expectedListSeparator
  | .keyOrEnd stack, .closing .object => .ok (complete (.obj []) stack)
  | .keyOrEnd stack, token => (readKey token).map fun name => .afterKey [] name stack
  | .key _ _, .closing .object => .error .trailingComma
  | .key members stack, token => (readKey token).map fun name => .afterKey members name stack
  | .afterKey members name stack, .colon => .ok (.value (.object members name :: stack))
  | .afterKey _ _ _, _ => .error .expectedColon
  | .afterMember members stack, .comma => .ok (.key members stack)
  | .afterMember members stack, .closing .object => .ok (complete (.obj members) stack)
  | .afterMember _ _, _ => .error .expectedObjectSeparator
  | .finished _, _ => .error .trailingCharacters

/-- The document at the end of the text, or what the text breaks off in. -/
def ReaderState.finish : ReaderState → Except Fault Json
  | .finished document => .ok document
  | .value _ | .item _ _ | .key _ _ => .error .endInValue
  | .itemOrEnd _ | .afterItem _ _ => .error .endInList
  | .keyOrEnd _ | .afterKey _ _ _ | .afterMember _ _ => .error .endInObject

/-- Reads a document from its tokens. -/
def ofTokens (tokens : List Token) : Except Fault Json := do
  (← tokens.foldlM ReaderState.step (.value [])).finish

/-- Reads a document. -/
def parse (text : String) : Except Fault Json :=
  ofTokens (tokens text.toList)

end Catalog.Json
