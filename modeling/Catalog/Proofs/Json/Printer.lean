import Catalog.Proofs.Json.Float
import Catalog.Proofs.Json.Reader

/-!
Reading what was printed. The indented text of a document gives the document back, except that a float
may read back as another one and that a text that is nested too deep is refused.
-/

namespace Catalog.Json

/-! ### Tokens of the whole text -/

theorem endsNumber_cons {c : Char} (h : c = ',' ∨ c = '\n') (behind : List Char) :
    EndsNumber (c :: behind) := by
  intro d hd
  cases hd
  obtain rfl | rfl := h <;> decide

theorem endsNumber_newline (level : Nat) (behind : List Char) :
    EndsNumber (newline level ++ behind) :=
  endsNumber_cons (.inr rfl) _

theorem tokens_comma (behind : List Char) : tokens (',' :: behind) = .comma :: tokens behind :=
  tokens_of_lexeme rfl rfl

theorem tokens_key (level : Nat) (key : String) (behind : List Char) :
    tokens (newline level ++ (quote key ++ ':' :: ' ' :: behind))
      = .string (.ok key) :: .colon :: tokens behind := by
  rw [tokens_newline, tokens_quote, tokens_of_lexeme rfl rfl, tokens_of_isSpace rfl]

mutual

theorem tokens_prettyChars : ∀ (json : Json) (level : Nat) {behind : List Char},
    json.Every HasText (fun _ => True) → EndsNumber behind →
    tokens (prettyChars level json ++ behind) = valueTokens rereadFloat json ++ tokens behind
  | .null, _, behind, _, _ => tokens_of_lexeme rfl rfl
  | .bool true, _, behind, _, _ => tokens_of_lexeme rfl rfl
  | .bool false, _, behind, _, _ => tokens_of_lexeme rfl rfl
  | .int n, _, behind, h, hbehind => tokens_intChars h hbehind
  | .float x, _, behind, h, hbehind => tokens_floatChars h hbehind
  | .str s, _, behind, _, _ => tokens_quote s behind
  | .arr [], _, behind, _, _ => by
    rw [prettyChars, valueTokens, itemTokens]
    exact (tokens_of_lexeme rfl rfl).trans (congrArg _ (tokens_of_lexeme rfl rfl))
  | .arr (item :: rest), level, behind, h, _ => by
    have hitems := tokens_prettyItems (item :: rest) (level + 1) h
      (endsNumber_newline level (']' :: behind))
    have hclosing : tokens (']' :: behind) = .closing .list :: tokens behind :=
      tokens_of_lexeme rfl rfl
    rw [tokens_newline, hclosing] at hitems
    have hopening : ∀ s, tokens ('[' :: s) = .opening .list :: tokens s :=
      fun _ => tokens_of_lexeme rfl rfl
    simp only [prettyChars, valueTokens, List.cons_append, List.append_assoc, List.nil_append,
      hopening, hitems]
  | .obj [], _, behind, _, _ => by
    rw [prettyChars, valueTokens, memberTokens]
    exact (tokens_of_lexeme rfl rfl).trans (congrArg _ (tokens_of_lexeme rfl rfl))
  | .obj (member :: rest), level, behind, h, _ => by
    have hmembers := tokens_prettyMembers (member :: rest) (level + 1) h.2
      (endsNumber_newline level ('\x7d' :: behind))
    have hclosing : tokens ('\x7d' :: behind) = .closing .object :: tokens behind :=
      tokens_of_lexeme rfl rfl
    rw [tokens_newline, hclosing] at hmembers
    have hopening : ∀ s, tokens ('\x7b' :: s) = .opening .object :: tokens s :=
      fun _ => tokens_of_lexeme rfl rfl
    simp only [prettyChars, valueTokens, List.cons_append, List.append_assoc, List.nil_append,
      hopening, hmembers]

theorem tokens_prettyItems : ∀ (items : List Json) (level : Nat) {behind : List Char},
    EveryItem HasText (fun _ => True) items → EndsNumber behind →
    tokens (prettyItems level items ++ behind) = itemTokens rereadFloat items ++ tokens behind
  | [], _, behind, _, _ => rfl
  | [item], level, behind, h, hbehind => by
    rw [prettyItems, itemTokens, List.append_assoc, tokens_newline,
      tokens_prettyChars item level h.1 hbehind]
  | item :: next :: rest, level, behind, h, hbehind => by
    have hlater := tokens_prettyItems (next :: rest) level h.2 hbehind
    have hitem := tokens_prettyChars item level h.1
      (endsNumber_cons (.inl rfl) (prettyItems level (next :: rest) ++ behind))
    simp only [prettyItems, itemTokens, List.append_assoc, List.cons_append, tokens_newline] at *
    rw [hitem, tokens_comma, hlater]

theorem tokens_prettyMembers : ∀ (members : List (String × Json)) (level : Nat)
    {behind : List Char}, EveryMember HasText (fun _ => True) members → EndsNumber behind →
    tokens (prettyMembers level members ++ behind)
      = memberTokens rereadFloat members ++ tokens behind
  | [], _, behind, _, _ => rfl
  | [(key, value)], level, behind, h, hbehind => by
    have hvalue := tokens_prettyChars value level h.1 hbehind
    simp only [prettyMembers, memberTokens, List.append_assoc, List.cons_append, tokens_key, hvalue]
  | (key, value) :: next :: rest, level, behind, h, hbehind => by
    have hlater := tokens_prettyMembers (next :: rest) level h.2 hbehind
    have hvalue := tokens_prettyChars value level h.1
      (endsNumber_cons (.inl rfl) (prettyMembers level (next :: rest) ++ behind))
    rw [prettyMembers, memberTokens]
    simp only [List.append_assoc, List.cons_append, tokens_key, hvalue, tokens_comma, hlater]
    · simp
    · simp

end

/-- The printed text of a document is read as the document, with its floats read back, unless the
document is nested too deep. -/
theorem parse_pretty {json : Json} (h : json.Every HasText fun _ => True) : parse json.pretty
    = if json.depth ≤ depthLimit then .ok (json.reread rereadFloat) else .error .tooDeep := by
  have hend : tokens ['\n'] = [] := by
    rw [tokens_of_isSpace rfl, tokens]
  rw [parse, pretty, String.toList_ofList, tokens_prettyChars json 0 h (endsNumber_cons (.inr rfl) []),
    hend, List.append_nil, ofTokens_valueTokens]

end Catalog.Json
