import Catalog.Backend.Descriptor

/-!
Which of its readings a descriptor gets. A text may be read as `tag:slug` or `tag:slug[clause]` in
several ways. Main statement: parsing finds the way with the shortest tag and, for that tag, with the
shortest slug; it finds nothing only if there is no way at all.
-/

namespace Catalog.Backend.Descriptor

/-- A clause as written behind a slug. -/
def bracketed : Option (List Char) → List Char
  | none => []
  | some clause => '[' :: clause ++ [']']

/-- A way to read a text of one line: a tag, a slug and maybe a clause, none of them empty. -/
structure Splits (raw tag slug : List Char) (clause : Option (List Char)) : Prop where
  one_line : '\n' ∉ raw
  tag_ne : tag ≠ []
  slug_ne : slug ≠ []
  clause_ne : clause ≠ some []
  written : raw = tag ++ ':' :: (slug ++ bracketed clause)

/-- The way with the shortest tag and, for that tag, with the shortest slug. -/
structure Shortest (raw tag slug : List Char) (clause : Option (List Char)) : Prop
    extends Splits raw tag slug clause where
  tag_le : ∀ {tag' slug' clause'}, Splits raw tag' slug' clause' → tag.length ≤ tag'.length
  slug_le : ∀ {slug' clause'}, Splits raw tag slug' clause' → slug.length ≤ slug'.length

theorem bracketed_inj {c d : Option (List Char)} (h : bracketed c = bracketed d) : c = d := by
  cases c <;> cases d <;> simp_all [bracketed]

/-- The lengths of the tag and the slug fix a way. -/
theorem Shortest.unique {raw tag slug tag' slug' : List Char} {clause clause' : Option (List Char)}
    (h : Shortest raw tag slug clause) (h' : Shortest raw tag' slug' clause') :
    tag = tag' ∧ slug = slug' ∧ clause = clause' := by
  have hraw := h.written.symm.trans h'.written
  obtain ⟨rfl, hrest⟩ := List.append_inj hraw
    (Nat.le_antisymm (h.tag_le h'.toSplits) (h'.tag_le h.toSplits))
  obtain ⟨rfl, hclause⟩ := List.append_inj (List.cons.inj hrest).2
    (Nat.le_antisymm (h.slug_le h'.toSplits) (h'.slug_le h.toSplits))
  exact ⟨rfl, rfl, bracketed_inj hclause⟩

/-! ### Cutting at a separator that is not the first character -/

theorem eq_append_of_cutLate? {separator : Char} {s before after : List Char}
    (h : cutLate? separator s = some (before, after)) :
    before ≠ [] ∧ s = before ++ separator :: after := by
  cases s with
  | nil => simp [cutLate?] at h
  | cons c rest =>
    simp only [cutLate?, Option.map_eq_some_iff, Prod.mk.injEq, Prod.exists] at h
    obtain ⟨b, a, hcut, rfl, rfl⟩ := h
    obtain ⟨rfl, -⟩ := Text.eq_append_of_cut? hcut
    exact ⟨by simp, rfl⟩

/-- Any other cut with something before it leaves at least as much before it. -/
theorem cutLate?_le (separator : Char) {before : List Char} (hne : before ≠ [])
    (after : List Char) : ∃ b a, cutLate? separator (before ++ separator :: after) = some (b, a)
      ∧ b.length ≤ before.length := by
  obtain ⟨c, rest, rfl⟩ := List.exists_cons_of_ne_nil hne
  obtain ⟨b, a, hcut, hle⟩ := Text.cut?_le separator rest after
  exact ⟨c :: b, a, by simp [cutLate?, hcut], by simpa using hle⟩

/-- With something before a separator and behind it, there is a cut with something on both sides. -/
theorem exists_cutLate? (separator : Char) {before after : List Char} (hbefore : before ≠ [])
    (hafter : after ≠ []) :
    ∃ b c rest, cutLate? separator (before ++ separator :: after) = some (b, c :: rest) := by
  obtain ⟨b, a, hcut, hle⟩ := cutLate?_le separator hbefore after
  obtain ⟨-, hsame⟩ := eq_append_of_cutLate? hcut
  have hlen := congrArg List.length hsame
  have hpos := List.length_pos_iff.2 hafter
  simp only [List.length_append, List.length_cons] at hlen
  obtain ⟨c, rest, rfl⟩ := List.exists_cons_of_ne_nil (l := a) (List.ne_nil_of_length_pos (by omega))
  exact ⟨b, c, rest, hcut⟩

/-! ### The clause -/

/-- The slug and the clause make up the text. -/
theorem splitClause_written {s : List Char} (hs : s ≠ []) :
    (splitClause s).1 ≠ [] ∧ (splitClause s).2 ≠ some []
      ∧ s = (splitClause s).1 ++ bracketed (splitClause s).2 := by
  unfold splitClause
  split
  · rename_i slug clause hcut
    obtain ⟨hslug, hs'⟩ := eq_append_of_cutLate? hcut
    split
    · rename_i hend
      simp only [Bool.and_eq_true, decide_eq_true_eq] at hend
      obtain ⟨hlast, hlen⟩ := hend
      obtain ⟨options, rfl⟩ := List.getLast?_eq_some_iff.1 hlast
      rw [List.dropLast_concat]
      refine ⟨hslug, ?_, hs'⟩
      rintro ⟨⟩
      simp at hlen
    · exact ⟨hs, by simp, by simp [bracketed]⟩
  · exact ⟨hs, by simp, by simp [bracketed]⟩

/-- No other slug with a clause behind it is shorter. -/
theorem splitClause_le {slug : List Char} {clause : Option (List Char)} (hslug : slug ≠ [])
    (hclause : clause ≠ some []) :
    (splitClause (slug ++ bracketed clause)).1.length ≤ slug.length := by
  cases clause with
  | none =>
    have hwritten := (splitClause_written (s := slug ++ bracketed none) (by simp [hslug])).2.2
    have hlen := congrArg List.length hwritten
    simp only [bracketed, List.append_nil, List.length_append] at hlen ⊢
    omega
  | some clause =>
    obtain ⟨b, a, hcut, hle⟩ := cutLate?_le '[' hslug (clause ++ [']'])
    obtain ⟨-, hs⟩ := eq_append_of_cutLate? hcut
    -- what is cut off last is no shorter than the clause, so it ends in the same bracket
    have hlen := congrArg List.length hs
    simp only [List.length_append, List.length_cons, List.length_nil] at hlen
    have hpos : 0 < clause.length := List.length_pos_iff.2 fun h => hclause (by rw [h])
    have hlast : a.getLast? = some ']' := by
      obtain rfl | ⟨front, x, rfl⟩ := List.eq_nil_or_concat a
      · simp at hlen; omega
      · rw [List.concat_eq_append] at hs ⊢
        have h : (slug ++ '[' :: clause) ++ [']'] = (b ++ '[' :: front) ++ [x] := by simpa using hs
        obtain ⟨-, hx⟩ := List.append_inj' h rfl
        rw [← hx, List.getLast?_concat]
    have hfound : splitClause (slug ++ bracketed (some clause)) = (b, some a.dropLast) := by
      rw [splitClause, bracketed, List.cons_append, hcut]
      simp only [hlast, decide_true, Bool.true_and, decide_eq_true_eq]
      rw [if_pos (by omega)]
    rw [hfound]
    exact hle

/-! ### The whole descriptor -/

theorem shortest_of_split? {raw tag slug : List Char} {clause : Option (List Char)}
    (h : split? raw = some (tag, slug, clause)) : Shortest raw tag slug clause := by
  unfold split? at h
  split at h
  · cases h
  rename_i hline
  split at h
  · rename_i tag' c rest hcut
    simp only [Option.some.injEq, Prod.mk.injEq] at h
    obtain ⟨rfl, hclause⟩ := h
    obtain ⟨htag, hraw⟩ := eq_append_of_cutLate? hcut
    have hwritten := splitClause_written (s := c :: rest) (by simp)
    rw [hclause] at hwritten
    obtain ⟨hslug, hne, hrest⟩ := hwritten
    refine ⟨⟨hline, htag, hslug, hne, by rw [hraw, ← hrest]⟩, ?_, ?_⟩
    · intro tag₂ slug₂ clause₂ hsplit
      obtain ⟨b, a, hcut₂, hle⟩ := cutLate?_le ':' hsplit.tag_ne (slug₂ ++ bracketed clause₂)
      rw [← hsplit.written, hcut] at hcut₂
      cases hcut₂
      exact hle
    · intro slug₂ clause₂ hsplit
      have hsame := List.append_cancel_left (hraw.symm.trans hsplit.written)
      have hle := splitClause_le hsplit.slug_ne hsplit.clause_ne
      rw [← (List.cons.inj hsame).2, hclause] at hle
      exact hle
  · cases h

theorem exists_split? {raw tag slug : List Char} {clause : Option (List Char)}
    (h : Splits raw tag slug clause) : ∃ found, split? raw = some found := by
  obtain ⟨b, c, rest, hcut⟩ :=
    exists_cutLate? ':' h.tag_ne (List.append_ne_nil_of_left_ne_nil h.slug_ne (bracketed clause))
  rw [← h.written] at hcut
  exact ⟨_, by rw [split?, if_neg h.one_line, hcut]⟩

/-- Splitting finds the shortest way. -/
theorem split?_eq_some_iff {raw tag slug : List Char} {clause : Option (List Char)} :
    split? raw = some (tag, slug, clause) ↔ Shortest raw tag slug clause := by
  refine ⟨shortest_of_split?, fun h => ?_⟩
  obtain ⟨⟨tag', slug', clause'⟩, hfound⟩ := exists_split? h.toSplits
  obtain ⟨rfl, rfl, rfl⟩ := h.unique (shortest_of_split? hfound)
  exact hfound

theorem exists_shortest {raw tag slug : List Char} {clause : Option (List Char)}
    (h : Splits raw tag slug clause) : ∃ tag slug clause, Shortest raw tag slug clause := by
  obtain ⟨⟨tag, slug, clause⟩, hfound⟩ := exists_split? h
  exact ⟨tag, slug, clause, shortest_of_split? hfound⟩

theorem parse_of_shortest {raw : String} {tag slug : List Char} {clause : Option (List Char)}
    (h : Shortest raw.toList tag slug clause) :
    parse raw = { raw, tag := String.ofList tag, slug := String.ofList slug,
                  options := (clause.map optionsOf).getD .empty } := by
  rw [parse, split?_eq_some_iff.2 h]

theorem parse_of_not_splits {raw : String}
    (h : ¬ ∃ tag slug clause, Splits raw.toList tag slug clause) : parse raw = { raw } := by
  cases hsplit : split? raw.toList with
  | none => rw [parse, hsplit]
  | some found => exact absurd ⟨_, _, _, (shortest_of_split? hsplit).toSplits⟩ h

theorem raw_parse (raw : String) : (parse raw).raw = raw := by
  unfold parse
  split <;> rfl

/-- A text is parsed exactly if there is a way to read it. -/
theorem isParsed_iff {raw : String} :
    (parse raw).isParsed = true ↔ ∃ tag slug clause, Splits raw.toList tag slug clause := by
  constructor
  · intro hparsed
    refine Classical.byContradiction fun hno => ?_
    rw [parse_of_not_splits hno] at hparsed
    simp [isParsed] at hparsed
  · rintro ⟨_, _, _, h⟩
    obtain ⟨tag, slug, clause, hshort⟩ := exists_shortest h
    rw [parse_of_shortest hshort]
    simp [isParsed, hshort.tag_ne]

theorem slug_ne_of_isParsed {raw : String} (h : (parse raw).isParsed = true) :
    (parse raw).slug ≠ "" := by
  obtain ⟨_, _, _, hsplits⟩ := isParsed_iff.1 h
  obtain ⟨tag, slug, clause, hshortest⟩ := exists_shortest hsplits
  rw [parse_of_shortest hshortest]
  simpa using hshortest.slug_ne

/-- Parsing keeps the text, and gives it the tag, the slug and the options of the shortest way to read
it. If there is no way, all three are empty. -/
theorem parse_shortest (raw : String) :
    (parse raw).raw = raw
      ∧ ((parse raw).isParsed = true ↔ ∃ tag slug clause, Splits raw.toList tag slug clause)
      ∧ ((∃ tag slug clause, Splits raw.toList tag slug clause) →
          ∃ tag slug clause, Shortest raw.toList tag slug clause)
      ∧ (∀ tag slug clause, Shortest raw.toList tag slug clause →
          (parse raw).tag = String.ofList tag ∧ (parse raw).slug = String.ofList slug
            ∧ (parse raw).options = (clause.map optionsOf).getD .empty)
      ∧ ((¬ ∃ tag slug clause, Splits raw.toList tag slug clause) →
          (parse raw).tag = "" ∧ (parse raw).slug = "" ∧ (parse raw).options = .empty) := by
  refine ⟨raw_parse raw, isParsed_iff, fun ⟨_, _, _, h⟩ => exists_shortest h, ?_, ?_⟩
  · intro tag slug clause h
    rw [parse_of_shortest h]
    exact ⟨rfl, rfl, rfl⟩
  · intro hno
    rw [parse_of_not_splits hno]
    exact ⟨rfl, rfl, rfl⟩

/-- A colon may be the tag, and a bracket may be the slug. -/
example : (parse "::[[flag]").tag = ":" ∧ (parse "::[[flag]").slug = "["
    ∧ (parse "::[[flag]").options.get? "flag" = some "" := by decide

end Catalog.Backend.Descriptor
