import Catalog.Json.Reader
import Catalog.Proofs.Json.Document
import Catalog.Proofs.Result

/-!
What the reader makes of the tokens of a document: the document as it reads back, if it is not nested
too deep.
-/

namespace Catalog.Json

variable {floats : Float → Float}

/-! ### The tokens of a document -/

mutual

/-- The tokens of a document, with the floats that the texts of its floats read back as. -/
def valueTokens (floats : Float → Float) : Json → List Token
  | .null => [.null]
  | .bool b => [.bool b]
  | .int n => [.number (.ok (.int n))]
  | .float x => [.number (.ok (.float (floats x)))]
  | .str s => [.string (.ok s)]
  | .arr items => .opening .list :: (itemTokens floats items ++ [.closing .list])
  | .obj members => .opening .object :: (memberTokens floats members ++ [.closing .object])

/-- The tokens of the items of a list. -/
def itemTokens (floats : Float → Float) : List Json → List Token
  | [] => []
  | [item] => valueTokens floats item
  | item :: rest => valueTokens floats item ++ .comma :: itemTokens floats rest

/-- The tokens of the members of an object. -/
def memberTokens (floats : Float → Float) : List (String × Json) → List Token
  | [] => []
  | [(key, value)] => .string (.ok key) :: .colon :: valueTokens floats value
  | (key, value) :: rest =>
    .string (.ok key) :: .colon :: (valueTokens floats value ++ .comma :: memberTokens floats rest)

end

/-- The first token of a value closes nothing. -/
theorem exists_valueTokens_cons (floats : Float → Float) (json : Json) : ∃ token rest,
    valueTokens floats json = token :: rest ∧ ∀ bracket, token ≠ .closing bracket := by
  cases json <;> simp [valueTokens]

/-! ### Reading them -/

/-- The state after a value, if the value is not nested too deep for its place. -/
def settle (floats : Float → Float) (json : Json) (stack : List Frame) : Except Fault ReaderState :=
  if stack.length + json.depth ≤ depthLimit then .ok (complete (json.reread floats) stack)
  else .error .tooDeep

/-- The state at the end of a list with the items so far, if the others are not nested too deep. -/
def settleItems (floats : Float → Float) (sofar items : List Json) (stack : List Frame) :
    Except Fault ReaderState :=
  if stack.length + 1 + depthOfItems items ≤ depthLimit then
    .ok (complete (.arr (sofar.reverse ++ rereadItems floats items)) stack)
  else .error .tooDeep

/-- The state at the end of an object with the members so far, if the others are not nested too
deep. -/
def settleMembers (floats : Float → Float) (sofar members : List (String × Json))
    (stack : List Frame) : Except Fault ReaderState :=
  if stack.length + 1 + depthOfMembers members ≤ depthLimit then
    .ok (complete (.obj ((rereadMembers floats members).foldl
      (fun entries pair => Keyed.put entries pair.1 pair.2) sofar)) stack)
  else .error .tooDeep

theorem foldlM_item (json : Json) (sofar : List Json) (stack : List Frame) (behind : List Token) :
    (valueTokens floats json ++ behind).foldlM ReaderState.step (.item sofar stack)
      = (valueTokens floats json ++ behind).foldlM ReaderState.step (.value (.list sofar :: stack)) := by
  obtain ⟨token, rest, htokens, hclosing⟩ := exists_valueTokens_cons floats json
  rw [htokens, List.cons_append, List.foldlM_cons, List.foldlM_cons]
  congr 1
  cases token <;> first | rfl | exact absurd rfl (hclosing _)

theorem foldlM_itemOrEnd (json : Json) (stack : List Frame) (behind : List Token) :
    (valueTokens floats json ++ behind).foldlM ReaderState.step (.itemOrEnd stack)
      = (valueTokens floats json ++ behind).foldlM ReaderState.step (.value (.list [] :: stack)) := by
  obtain ⟨token, rest, htokens, hclosing⟩ := exists_valueTokens_cons floats json
  rw [htokens, List.cons_append, List.foldlM_cons, List.foldlM_cons]
  congr 1
  cases token <;> first | rfl | exact absurd rfl (hclosing _)

theorem foldlM_key (key : String) (sofar : List (String × Json)) (stack : List Frame)
    (behind : List Token) :
    (Token.string (.ok key) :: .colon :: behind).foldlM ReaderState.step (.key sofar stack)
      = behind.foldlM ReaderState.step (.value (.object sofar key :: stack)) :=
  rfl

theorem exists_itemTokens_cons (floats : Float → Float) (item : Json) (rest : List Json) :
    ∃ behind, itemTokens floats (item :: rest) = valueTokens floats item ++ behind := by
  cases rest with
  | nil => exact ⟨[], by rw [itemTokens, List.append_nil]⟩
  | cons next rest => exact ⟨_, by rw [itemTokens]; simp⟩

/-- An item that fits is added to the items so far. -/
theorem settleItems_cons {item : Json} {rest sofar : List Json} {stack : List Frame}
    (h : stack.length + 1 + item.depth ≤ depthLimit) :
    settleItems floats (item.reread floats :: sofar) rest stack
      = settleItems floats sofar (item :: rest) stack := by
  have hdepth : stack.length + 1 + depthOfItems (item :: rest) ≤ depthLimit
      ↔ stack.length + 1 + depthOfItems rest ≤ depthLimit := by
    rw [depthOfItems]
    omega
  simp [settleItems, hdepth, rereadItems]

/-- An item that does not fit ends the reading. -/
theorem settleItems_of_lt {item : Json} {rest sofar : List Json} {stack : List Frame}
    (h : ¬ stack.length + 1 + item.depth ≤ depthLimit) :
    settleItems floats sofar (item :: rest) stack = .error .tooDeep := by
  rw [settleItems, if_neg]
  rw [depthOfItems]
  omega

theorem settleMembers_cons {key : String} {value : Json} {rest sofar : List (String × Json)}
    {stack : List Frame} (h : stack.length + 1 + value.depth ≤ depthLimit) :
    settleMembers floats (Keyed.put sofar key (value.reread floats)) rest stack
      = settleMembers floats sofar ((key, value) :: rest) stack := by
  have hdepth : stack.length + 1 + depthOfMembers ((key, value) :: rest) ≤ depthLimit
      ↔ stack.length + 1 + depthOfMembers rest ≤ depthLimit := by
    rw [depthOfMembers]
    omega
  simp [settleMembers, hdepth, rereadMembers]

theorem settleMembers_of_lt {key : String} {value : Json} {rest sofar : List (String × Json)}
    {stack : List Frame} (h : ¬ stack.length + 1 + value.depth ≤ depthLimit) :
    settleMembers floats sofar ((key, value) :: rest) stack = .error .tooDeep := by
  rw [settleMembers, if_neg]
  rw [depthOfMembers]
  omega

/-! ### Reading the tokens of a document -/

theorem settle_scalar {json : Json} (h : json.depth = 0) {stack : List Frame}
    (hstack : stack.length ≤ depthLimit) :
    settle floats json stack = .ok (complete (json.reread floats) stack) := by
  rw [settle, if_pos]
  omega

/-- A container can be opened if it fits, and nothing in it fits if it cannot. -/
theorem readValue_opening (bracket : Bracket) (stack : List Frame) :
    readValue stack (.opening bracket) = if stack.length < depthLimit then
        .ok (match bracket with
          | .list => .itemOrEnd stack
          | .object => .keyOrEnd stack)
      else .error .tooDeep := by
  by_cases h : stack.length < depthLimit
  · cases bracket <;> simp [readValue, h, Nat.not_le.2 h]
  · simp [readValue, h, Nat.le_of_not_lt h]

theorem settleItems_eq_settle (items : List Json) (stack : List Frame) :
    settleItems floats [] items stack = settle floats (.arr items) stack := by
  rw [settle, settleItems, depth, ← Nat.add_assoc, Nat.add_right_comm]
  rfl

theorem settleMembers_eq_settle (members : List (String × Json)) (stack : List Frame) :
    settleMembers floats [] members stack = settle floats (.obj members) stack := by
  rw [settle, settleMembers, depth, ← Nat.add_assoc, Nat.add_right_comm]
  rfl

theorem settle_of_lt {json : Json} {stack : List Frame} (hdepth : 0 < json.depth)
    (h : ¬ stack.length < depthLimit) : settle floats json stack = .error .tooDeep := by
  rw [settle, if_neg]
  omega

mutual

theorem foldlM_valueTokens : ∀ (json : Json) (stack : List Frame), stack.length ≤ depthLimit →
    (valueTokens floats json).foldlM ReaderState.step (.value stack) = settle floats json stack
  | .null, stack, h | .bool _, stack, h | .int _, stack, h | .float _, stack, h
  | .str _, stack, h => by
    rw [settle_scalar (by simp [depth]) h]
    simp [valueTokens, ReaderState.step, readValue, reread, Except.map]
  | .arr [], stack, _ => by
    rw [valueTokens, List.foldlM_cons, ReaderState.step, readValue_opening]
    split
    · rw [← settleItems_eq_settle, settleItems, if_pos]
      · rfl
      · rw [depthOfItems]
        omega
    · rename_i hfull
      rw [settle_of_lt (by rw [depth]; omega) hfull, Result.error_bind]
  | .arr (item :: rest), stack, _ => by
    obtain ⟨behind, hbehind⟩ := exists_itemTokens_cons floats item rest
    rw [valueTokens, List.foldlM_cons, ReaderState.step, readValue_opening]
    split
    · rename_i hfree
      rw [Result.ok_bind, hbehind, List.append_assoc, foldlM_itemOrEnd, ← List.append_assoc,
        ← hbehind, foldlM_itemTokens (item :: rest) [] nofun hfree, settleItems_eq_settle]
    · rename_i hfull
      rw [settle_of_lt (by rw [depth]; omega) hfull, Result.error_bind]
  | .obj [], stack, _ => by
    rw [valueTokens, List.foldlM_cons, ReaderState.step, readValue_opening]
    split
    · rw [← settleMembers_eq_settle, settleMembers, if_pos]
      · rfl
      · rw [depthOfMembers]
        omega
    · rename_i hfull
      rw [settle_of_lt (by rw [depth]; omega) hfull, Result.error_bind]
  | .obj ((key, value) :: rest), stack, _ => by
    rw [valueTokens, List.foldlM_cons, ReaderState.step, readValue_opening]
    split
    · rename_i hfree
      rw [← settleMembers_eq_settle, ← foldlM_memberTokens ((key, value) :: rest) [] nofun hfree]
      cases rest <;> rfl
    · rename_i hfull
      rw [settle_of_lt (by rw [depth]; omega) hfull, Result.error_bind]

theorem foldlM_itemTokens : ∀ (items sofar : List Json) {stack : List Frame}, items ≠ [] →
    stack.length < depthLimit →
    (itemTokens floats items ++ [Token.closing .list]).foldlM ReaderState.step
        (.value (.list sofar :: stack))
      = settleItems floats sofar items stack
  | [], _, _, hne, _ => absurd rfl hne
  | [item], sofar, stack, _, h => by
    rw [itemTokens, List.foldlM_append, foldlM_valueTokens item (.list sofar :: stack) h, settle,
      List.length_cons]
    by_cases hdepth : stack.length + 1 + item.depth ≤ depthLimit
    · rw [if_pos hdepth, ← settleItems_cons hdepth, settleItems, if_pos]
      · simp [complete, ReaderState.step, rereadItems]
      · rw [depthOfItems]
        omega
    · rw [if_neg hdepth, settleItems_of_lt hdepth, Result.error_bind]
  | item :: next :: rest, sofar, stack, _, h => by
    obtain ⟨behind, hbehind⟩ := exists_itemTokens_cons floats next rest
    have ih := foldlM_itemTokens (next :: rest) (item.reread floats :: sofar) nofun h
    rw [itemTokens, List.append_assoc, List.foldlM_append,
      foldlM_valueTokens item (.list sofar :: stack) h, settle, List.length_cons]
    by_cases hdepth : stack.length + 1 + item.depth ≤ depthLimit
    · rw [if_pos hdepth, ← settleItems_cons hdepth, ← ih, hbehind, List.append_assoc,
        ← foldlM_item, Result.ok_bind, List.cons_append, List.foldlM_cons, List.append_assoc]
      rfl
    · rw [if_neg hdepth, settleItems_of_lt hdepth, Result.error_bind]
    · simp

theorem foldlM_memberTokens : ∀ (members sofar : List (String × Json)) {stack : List Frame},
    members ≠ [] → stack.length < depthLimit →
    (memberTokens floats members ++ [Token.closing .object]).foldlM ReaderState.step
        (.key sofar stack)
      = settleMembers floats sofar members stack
  | [], _, _, hne, _ => absurd rfl hne
  | [(key, value)], sofar, stack, _, h => by
    rw [memberTokens, List.cons_append, List.cons_append, foldlM_key, List.foldlM_append,
      foldlM_valueTokens value (.object sofar key :: stack) h, settle, List.length_cons]
    by_cases hdepth : stack.length + 1 + value.depth ≤ depthLimit
    · rw [if_pos hdepth, ← settleMembers_cons hdepth, settleMembers, if_pos]
      · simp [complete, ReaderState.step, rereadMembers]
      · rw [depthOfMembers]
        omega
    · rw [if_neg hdepth, settleMembers_of_lt hdepth, Result.error_bind]
  | (key, value) :: (name, next) :: rest, sofar, stack, _, h => by
    have ih := foldlM_memberTokens ((name, next) :: rest)
      (Keyed.put sofar key (value.reread floats)) nofun h
    rw [memberTokens, List.cons_append, List.cons_append, foldlM_key, List.append_assoc,
      List.foldlM_append, foldlM_valueTokens value (.object sofar key :: stack) h, settle,
      List.length_cons]
    by_cases hdepth : stack.length + 1 + value.depth ≤ depthLimit
    · rw [if_pos hdepth, ← settleMembers_cons hdepth, ← ih, Result.ok_bind, List.cons_append,
        List.foldlM_cons]
      rfl
    · rw [if_neg hdepth, settleMembers_of_lt hdepth, Result.error_bind]
    · simp

end

/-- The tokens of a document give the document as it reads back, unless it is nested too deep. -/
theorem ofTokens_valueTokens (json : Json) : ofTokens (valueTokens floats json)
    = if json.depth ≤ depthLimit then .ok (json.reread floats) else .error .tooDeep := by
  rw [ofTokens, foldlM_valueTokens json [] (Nat.zero_le _), settle, List.length_nil, Nat.zero_add]
  split <;> rfl

end Catalog.Json
