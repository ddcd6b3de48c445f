import Catalog.Proofs.Backend.Descriptor

/-!
The normal form of a descriptor: its tag and its slug, without a clause. Main statement: a descriptor is
its normal form with at most one clause behind it, and the normal form is read as the same tag and slug, so
that it is its own normal form. What carries this is that a clause put behind a line never takes away a
way to read it: any shorter way to read the normal form would have been one to read the descriptor.
-/

namespace Catalog.Backend.Descriptor

variable {raw tag slug : List Char} {clause : Option (List Char)}

/-- Two clauses side by side read as one, or as none if both are none. -/
theorem exists_bracketed_append {c d : Option (List Char)} (hc : c ≠ some []) (hd : d ≠ some []) :
    ∃ e, e ≠ some [] ∧ bracketed c ++ bracketed d = bracketed e := by
  rcases c with _ | inner
  · exact ⟨d, hd, rfl⟩
  · rcases d with _ | outer
    · exact ⟨some inner, hc, List.append_nil _⟩
    · exact ⟨some (inner ++ ']' :: '[' :: outer), by simp, by simp [bracketed]⟩

/-- A way to read a line is a way to read it with a clause behind it, with the same tag and slug. -/
theorem Splits.exists_append {front : List Char} {c d : Option (List Char)} (h : Splits front tag slug c)
    (hline : '\n' ∉ bracketed d) (hd : d ≠ some []) :
    ∃ e, Splits (front ++ bracketed d) tag slug e := by
  obtain ⟨e, he, hjoined⟩ := exists_bracketed_append h.clause_ne hd
  refine ⟨e, ⟨?_, h.tag_ne, h.slug_ne, he, ?_⟩⟩
  · rw [List.mem_append, not_or]
    exact ⟨h.one_line, hline⟩
  · rw [h.written, ← hjoined]
    simp

theorem Splits.eq_append (h : Splits raw tag slug clause) :
    raw = (tag ++ ':' :: slug) ++ bracketed clause := by
  rw [h.written, List.append_assoc, List.cons_append]

theorem Splits.bare (h : Splits raw tag slug clause) : Splits (tag ++ ':' :: slug) tag slug none where
  one_line hmem := h.one_line (by rw [h.eq_append]; exact List.mem_append_left _ hmem)
  tag_ne := h.tag_ne
  slug_ne := h.slug_ne
  clause_ne := by simp
  written := by rw [bracketed, List.append_nil]

/-- Without its clause, a descriptor is read as the same tag and slug. -/
theorem Shortest.bare (h : Shortest raw tag slug clause) :
    Shortest (tag ++ ':' :: slug) tag slug none := by
  have hraw := h.eq_append
  have hline : '\n' ∉ bracketed clause := fun hmem =>
    h.one_line (by rw [hraw]; exact List.mem_append_right _ hmem)
  refine ⟨h.toSplits.bare, fun hother => ?_, fun hother => ?_⟩
  · obtain ⟨_, hlonger⟩ := hother.exists_append hline h.clause_ne
    exact h.tag_le (hraw ▸ hlonger)
  · obtain ⟨_, hlonger⟩ := hother.exists_append hline h.clause_ne
    exact h.slug_le (hraw ▸ hlonger)

/-! ### Texts -/

theorem full_of_shortest {raw : String} (h : Shortest raw.toList tag slug clause) :
    (parse raw).full = String.ofList (tag ++ ':' :: slug) := by
  rw [parse_of_shortest h, full, if_neg (by simp [h.tag_ne])]
  simp [← String.toList_inj]

theorem full_of_not_splits {raw : String} (h : ¬ ∃ tag slug clause, Splits raw.toList tag slug clause) :
    (parse raw).full = "" := by
  rw [parse_of_not_splits h]
  rfl

/-- A descriptor is its normal form, or its normal form and a clause. -/
theorem eq_full_of_isParsed {raw : String} (h : (parse raw).isParsed = true) :
    raw = (parse raw).full
      ∨ ∃ clause, clause ≠ "" ∧ raw = (parse raw).full ++ "[" ++ clause ++ "]" := by
  obtain ⟨_, _, _, hsplits⟩ := isParsed_iff.1 h
  obtain ⟨tag, slug, clause, hshort⟩ := exists_shortest hsplits
  rw [full_of_shortest hshort]
  have hraw := hshort.eq_append
  rcases clause with _ | clause
  · refine .inl (String.toList_inj.1 ?_)
    rw [hraw, String.toList_ofList, bracketed, List.append_nil]
  · refine .inr ⟨String.ofList clause, ?_, String.toList_inj.1 ?_⟩
    · intro hempty
      exact hshort.clause_ne (by simpa using hempty)
    · rw [hraw]
      simp [bracketed]

/-- Reading a normal form gives the tag and the slug that it was made of, and no options. -/
theorem parse_full (raw : String) :
    parse (parse raw).full = { parse raw with raw := (parse raw).full, options := .empty } := by
  by_cases h : ∃ tag slug clause, Splits raw.toList tag slug clause
  · obtain ⟨_, _, _, hsplits⟩ := h
    obtain ⟨tag, slug, clause, hshort⟩ := exists_shortest hsplits
    have hbare : Shortest (parse raw).full.toList tag slug none := by
      rw [full_of_shortest hshort, String.toList_ofList]
      exact hshort.bare
    rw [parse_of_shortest hbare, parse_of_shortest hshort]
    rfl
  · rw [full_of_not_splits h, parse_of_not_splits h]
    rfl

/-- A text that is a descriptor is its tag, a colon and its slug with nothing or one clause that is not
empty behind. Whether or not it is one, what is kept without the clause is read as the same tag and slug
with no options, and it is all that is kept of itself. -/
theorem full_is_normal (raw : String) :
    ((parse raw).isParsed = true →
        (parse raw).full = (parse raw).tag ++ ":" ++ (parse raw).slug
          ∧ (raw = (parse raw).full
            ∨ ∃ clause, clause ≠ "" ∧ raw = (parse raw).full ++ "[" ++ clause ++ "]"))
      ∧ (parse (parse raw).full).tag = (parse raw).tag
      ∧ (parse (parse raw).full).slug = (parse raw).slug
      ∧ (parse (parse raw).full).options = .empty
      ∧ (parse (parse raw).full).full = (parse raw).full := by
  have hagain := parse_full raw
  refine ⟨fun hparsed => ⟨?_, eq_full_of_isParsed hparsed⟩, ?_, ?_, ?_, ?_⟩
  · have htag : (parse raw).tag ≠ "" := by simpa [isParsed] using hparsed
    rw [full, if_neg (by simp [htag])]
  · rw [hagain]
  · rw [hagain]
  · rw [hagain]
  · rw [hagain]
    rfl

/-- Clauses side by side are one clause, and brackets with nothing in them are no clause. -/
example : (parse "::a:[b][c]").full = "::a:" ∧ (parse "ubi:a[]").full = "ubi:a[]" := by decide

end Catalog.Backend.Descriptor
