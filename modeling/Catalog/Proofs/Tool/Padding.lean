import Catalog.Proofs.Tool.Row

/-!
Spaces in the columns of a listing. Every column may hold spaces, and the padding between the columns and
at the end takes what it can. What it cannot take stays in a column. Main statement: the columns of a row
are clean exactly if none of them is blank and no space starts the row, stands beside its colon or before
its clause.
-/

namespace Catalog.Tool

open Backend.Descriptor (bracketed)

variable {line name tag slug : List Char} {clause : Option (List Char)} {k m : Nat}

/-- A text that is not blank and neither starts nor ends with a space. -/
structure IsClean (s : List Char) : Prop where
  shown : Text.allBlank s = false
  start : s.head? ≠ some ' '
  last : s.getLast? ≠ some ' '

/-- No column of a row is blank, and no space starts the row, stands beside its colon or before its
clause. -/
structure IsTidy (line name tag slug : List Char) (clause : Option (List Char)) : Prop where
  name_shown : Text.allBlank name = false
  tag_shown : Text.allBlank tag = false
  slug_shown : Text.allBlank slug = false
  start : line.head? ≠ some ' '
  before_colon : tag.getLast? ≠ some ' '
  behind_colon : slug.head? ≠ some ' '
  before_clause : clause ≠ none → slug.getLast? ≠ some ' '

/-! ### Where padding goes -/

/-- A name ends at its first space, unless the row starts with that space. -/
theorem Preferred.space_not_mem (h : Preferred line name k tag slug clause m) : ' ' ∉ name.tail := by
  intro hmem
  obtain ⟨first, rest, rfl⟩ := List.exists_cons_of_ne_nil h.name_ne
  obtain ⟨front, back, rfl⟩ := List.append_of_mem (show ' ' ∈ rest from hmem)
  have hshorter : Reads line (first :: front) 1 (back ++ (spaces k ++ tag)) slug clause m :=
    ⟨List.cons_ne_nil first front, le_rfl, by simp [h.tag_ne], h.slug_ne, h.clause_ne,
      by rw [h.written]; simp⟩
  have hle := h.name_le hshorter
  simp at hle

/-- A tag that starts with a space is that space, which the padding lends it. -/
theorem Preferred.tag_eq_space (h : Preferred line name k tag slug clause m)
    (hspace : tag.head? = some ' ') : tag = [' '] := by
  obtain ⟨rest, rfl⟩ := List.head?_eq_some_iff.1 hspace
  by_contra hne
  have hmore : Reads line name (k + 1) rest slug clause m :=
    ⟨h.name_ne, by omega, by simpa using hne, h.slug_ne, h.clause_ne, by
      rw [h.written, spaces_succ']
      simp⟩
  have hle := h.padding_ge hmore
  omega

/-- Without a clause behind it, a slug that ends with a space is that space. -/
theorem Preferred.slug_eq_space (h : Preferred line name k tag slug none m)
    (hspace : slug.getLast? = some ' ') : slug = [' '] := by
  obtain ⟨front, rfl⟩ := List.getLast?_eq_some_iff.1 hspace
  by_contra hne
  have hshorter : Reads line name k tag front none (m + 1) :=
    ⟨h.name_ne, h.padded, h.tag_ne, by simpa using hne, h.clause_ne, by
      rw [h.written, spaces_succ]
      simp [bracketed]⟩
  have hle := h.slug_le hshorter
  simp at hle

/-! ### Clean columns -/

theorem Preferred.head?_line (h : Preferred line name k tag slug clause m) :
    line.head? = name.head? := by
  obtain ⟨first, rest, rfl⟩ := List.exists_cons_of_ne_nil h.name_ne
  rw [h.written]
  rfl

theorem Preferred.getLast?_name (h : Preferred line name k tag slug clause m)
    (hstart : name.head? ≠ some ' ') : name.getLast? ≠ some ' ' := by
  intro hlast
  obtain ⟨first, rest, rfl⟩ := List.exists_cons_of_ne_nil h.name_ne
  rcases List.mem_cons.1 (List.mem_of_getLast? hlast) with hfirst | hmem
  · exact hstart (congrArg some hfirst.symm)
  · exact h.space_not_mem hmem

theorem Preferred.clean_iff (h : Preferred line name k tag slug clause m) :
    (IsClean name ∧ IsClean tag ∧ IsClean slug) ↔ IsTidy line name tag slug clause := by
  constructor
  · rintro ⟨hname, htag, hslug⟩
    exact ⟨hname.shown, htag.shown, hslug.shown, h.head?_line ▸ hname.start, htag.last, hslug.start,
      fun _ => hslug.last⟩
  · rintro ⟨hname, htag, hslug, hstart, hbefore, hbehind, hclause⟩
    rw [h.head?_line] at hstart
    refine ⟨⟨hname, hstart, h.getLast?_name hstart⟩, ⟨htag, fun hspace => ?_, hbefore⟩,
      ⟨hslug, hbehind, fun hspace => ?_⟩⟩
    · exact hbefore (by rw [h.tag_eq_space hspace]; rfl)
    · cases clause with
      | none => exact hbehind (by rw [h.slug_eq_space hspace]; rfl)
      | some inner => exact hclause (by simp) hspace

/-- Every record is that of a line with a name, a tag and a slug. In the name, a space can only be the
first character; a tag that starts with a space is no more than that, and so is a slug that ends with one,
unless a clause is behind it. All three are clean exactly if the row is tidy. -/
theorem listed_clean_iff (text : String) : ∀ record ∈ ofListing text,
    ∃ line ∈ Text.lines text.toList, ∃ name k tag slug clause m,
      Preferred line name k tag slug clause m ∧ record = rowRecord name tag slug
        ∧ ' ' ∉ name.tail ∧ (tag.head? = some ' ' → tag = [' '])
        ∧ (clause = none → slug.getLast? = some ' ' → slug = [' '])
        ∧ ((IsClean name ∧ IsClean tag ∧ IsClean slug) ↔ IsTidy line name tag slug clause) := by
  intro record hrecord
  obtain ⟨line, hline, name, tag, slug, hsplit, rfl⟩ := exists_line_of_mem_ofListing hrecord
  obtain ⟨k, clause, m, h⟩ := preferred_of_splitLine? hsplit
  refine ⟨line, hline, name, k, tag, slug, clause, m, h, rfl, h.space_not_mem, h.tag_eq_space, ?_,
    h.clean_iff⟩
  rintro rfl
  exact h.slug_eq_space

/-- A row that is not tidy has a record, in which not all of the columns are clean. -/
theorem listed_clean_iff_indentedRow :
    rowRecord [' '] "a b".toList ['c'] ∈ ofListing "  a b:c"
      ∧ ∃ name tag slug, rowRecord [' '] "a b".toList ['c'] = rowRecord name tag slug
        ∧ ' ' ∉ name.tail ∧ ¬ (IsClean name ∧ IsClean tag ∧ IsClean slug) := by
  have hmem : rowRecord [' '] "a b".toList ['c'] ∈ ofListing "  a b:c" := by decide +kernel
  obtain ⟨line, hline, name, _, tag, slug, _, _, -, hrecord, hspace, -, -, hclean⟩ :=
    listed_clean_iff "  a b:c" _ hmem
  have hstart : ∀ line ∈ Text.lines "  a b:c".toList, line.head? = some ' ' := by decide
  refine ⟨hmem, name, tag, slug, hrecord, hspace, fun hall => ?_⟩
  exact (hclean.1 hall).start (hstart line hline)

/-- A row without a name has a record with a blank one, and a link. -/
theorem listed_indentedRow :
    ofListing "  cargo:ripgrep"
        = [{ name := " ", backends := [⟨"cargo:ripgrep", "https://crates.io/crates/ripgrep", []⟩] }]
      ∧ Text.allBlank " ".toList = true := by
  decide +kernel

end Catalog.Tool
