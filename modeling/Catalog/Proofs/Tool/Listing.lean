import Catalog.Proofs.Backend.Descriptor
import Catalog.Tool.Listing
import Mathlib

/-!
Rows of a live listing. Main statement: a row is split where its descriptor alone would be split,
whatever the padding between the columns and at the end is.
-/

namespace Catalog.Tool

open Backend

variable {name descriptor s : List Char} {c : Char} {k : Nat}

/-! ### Columns -/

/-- Some spaces. -/
abbrev spaces (count : Nat) : List Char :=
  List.replicate count ' '

theorem forall_mem_spaces (count : Nat) : ∀ d ∈ spaces count, decide (d = ' ') = true := by
  intro d hd
  rw [(List.mem_replicate.1 hd).2]
  rfl

theorem takeWhile_spaces (hc : c ≠ ' ') (count : Nat) (rest : List Char) :
    (spaces count ++ c :: rest).takeWhile (· = ' ') = spaces count := by
  rw [List.takeWhile_append_of_pos (forall_mem_spaces count)]
  simp [hc]

theorem dropWhile_spaces (hc : c ≠ ' ') (count : Nat) (rest : List Char) :
    (spaces count ++ c :: rest).dropWhile (· = ' ') = c :: rest := by
  rw [List.dropWhile_append_of_pos (forall_mem_spaces count)]
  simp [hc]

theorem dropFinalSpaces_append (h : ' ' ∉ s) (m : Nat) : dropFinalSpaces (s ++ spaces m) = s := by
  have hkept : s.reverse.dropWhile (· = ' ') = s.reverse := by
    rcases hreverse : s.reverse with _ | ⟨c, rest⟩
    · rfl
    · have hc : c ∈ s := List.mem_reverse.1 (hreverse ▸ List.mem_cons_self)
      exact List.dropWhile_cons_of_neg (by simpa using Text.forall_mem_ne h c hc)
  rw [dropFinalSpaces, List.reverse_append, List.reverse_replicate,
    List.dropWhile_append_of_pos (forall_mem_spaces m), hkept, List.reverse_reverse]

/-! ### Rows -/

/-- What stands behind a cut does not move it. -/
theorem cutLate?_append {separator : Char} {before after : List Char}
    (h : Descriptor.cutLate? separator s = some (before, after)) (rest : List Char) :
    Descriptor.cutLate? separator (s ++ rest) = some (before, after ++ rest) := by
  rcases s with _ | ⟨c, tail⟩
  · cases h
  · rw [Descriptor.cutLate?, Option.map_eq_some_iff] at h
    obtain ⟨⟨front, back⟩, hcut, hpair⟩ := h
    obtain ⟨rfl, rfl⟩ := Prod.mk.inj hpair
    obtain ⟨rfl, hfront⟩ := Text.eq_append_of_cut? hcut
    rw [List.cons_append, List.append_assoc, List.cons_append, Descriptor.cutLate?,
      Text.cut?_append hfront]
    rfl

/-- Spaces behind a descriptor change neither its tag nor its slug. -/
theorem lineDescriptor?_append {tag slug : List Char} {clause : Option (List Char)}
    (hspace : ' ' ∉ descriptor) (h : Descriptor.split? descriptor = some (tag, slug, clause))
    (m : Nat) : lineDescriptor? (descriptor ++ spaces m) = some (tag, slug) := by
  unfold Descriptor.split? at h
  split at h
  · cases h
  split at h
  · rename_i found c rest hcut
    obtain ⟨rfl, hclause⟩ := Prod.mk.inj (Option.some.inj h)
    have hrest : ' ' ∉ rest := by
      obtain ⟨-, hwritten⟩ := Descriptor.eq_append_of_cutLate? hcut
      rw [hwritten] at hspace
      simp only [List.mem_append, List.mem_cons, not_or] at hspace
      exact hspace.2.2.2
    rw [lineDescriptor?, cutLate?_append hcut, List.cons_append]
    dsimp only
    rw [dropFinalSpaces_append hrest, hclause]
  · cases h

/-- A row with any padding is split where its descriptor alone would be split. -/
theorem splitLine?_row {tag slug : List Char} {clause : Option (List Char)} (hne : name ≠ [])
    (hname : ' ' ∉ name) (hspace : ' ' ∉ descriptor)
    (h : Descriptor.split? descriptor = some (tag, slug, clause)) (hk : 0 < k) (m : Nat) :
    splitLine? (name ++ spaces k ++ (descriptor ++ spaces m)) = some (name, tag, slug) := by
  have hfound := lineDescriptor?_append hspace h m
  obtain ⟨c, tail, rfl⟩ : ∃ c tail, descriptor = c :: tail := by
    refine List.exists_cons_of_ne_nil ?_
    rintro rfl
    cases h
  obtain ⟨first, name, rfl⟩ := List.exists_cons_of_ne_nil hne
  obtain ⟨more, rfl⟩ := Nat.exists_eq_succ_of_ne_zero hk.ne'
  obtain ⟨hfirst, hname⟩ := not_or.1 (List.mem_cons.not.1 hname)
  obtain ⟨hc, -⟩ := not_or.1 (List.mem_cons.not.1 hspace)
  have hbehind : name ++ spaces (more + 1) ++ (c :: tail ++ spaces m)
      = name ++ ' ' :: (spaces more ++ (c :: tail ++ spaces m)) := by
    simp [spaces, List.replicate_succ]
  have htext : ' ' :: (spaces more ++ (c :: tail ++ spaces m))
      = spaces (more + 1) ++ c :: (tail ++ spaces m) := by
    simp [spaces, List.replicate_succ]
  rw [List.cons_append, List.cons_append, hbehind, splitLine?]
  dsimp only
  rw [Text.takeWhile_ne hname, Text.dropWhile_ne hname, htext, takeWhile_spaces (Ne.symm hc),
    dropWhile_spaces (Ne.symm hc), ← List.cons_append, hfound]
  cases more <;> rfl

/-! ### Characters of a row -/

theorem mem_of_mem_dropFinalSpaces {d : Char} (h : d ∈ dropFinalSpaces s) : d ∈ s := by
  rw [dropFinalSpaces, List.mem_reverse] at h
  exact List.mem_reverse.1 ((List.dropWhile_sublist _).mem h)

theorem forall_mem_of_lineDescriptor? {tag slug : List Char}
    (h : lineDescriptor? s = some (tag, slug)) : ∀ d ∈ tag ++ slug, d ∈ s := by
  unfold lineDescriptor? at h
  split at h
  · rename_i tag' c rest hcut
    obtain ⟨rfl, rfl⟩ := Prod.mk.inj (Option.some.inj h)
    obtain ⟨-, hwritten⟩ := Descriptor.eq_append_of_cutLate? hcut
    obtain ⟨-, -, hclause⟩ :=
      Descriptor.splitClause_written (List.cons_ne_nil c (dropFinalSpaces rest))
    have hslug : ∀ d ∈ (Descriptor.splitClause (c :: dropFinalSpaces rest)).1, d ∈ c :: rest := by
      intro d hd
      have hmem : d ∈ c :: dropFinalSpaces rest := hclause ▸ List.mem_append_left _ hd
      rcases List.mem_cons.1 hmem with rfl | hmem
      · exact List.mem_cons_self
      · exact List.mem_cons_of_mem c (mem_of_mem_dropFinalSpaces hmem)
    intro d hd
    rw [hwritten]
    rcases List.mem_append.1 hd with hd | hd
    · exact List.mem_append_left _ hd
    · exact List.mem_append_right _ (List.mem_cons_of_mem _ (hslug d hd))
  · cases h

/-- The name, the tag and the slug of a line are made of its characters. -/
theorem forall_mem_of_splitLine? {tag slug : List Char}
    (h : splitLine? s = some (name, tag, slug)) : ∀ d ∈ name ++ (tag ++ slug), d ∈ ' ' :: s := by
  cases s with
  | nil => cases h
  | cons first rest =>
    rw [splitLine?, Option.map_eq_some_iff] at h
    obtain ⟨⟨tag', slug'⟩, hfound, hparts⟩ := h
    obtain ⟨rfl, rfl, rfl⟩ : _ ∧ _ ∧ _ := by simpa using hparts
    have htext : ∀ d ∈ (rest.dropWhile (· ≠ ' ')).dropWhile (· = ' '), d ∈ ' ' :: first :: rest :=
      fun d hd => List.mem_cons_of_mem _ (List.mem_cons_of_mem _
        (((List.dropWhile_sublist _).trans (List.dropWhile_sublist _)).mem hd))
    intro d hd
    rcases List.mem_append.1 hd with hd | hd
    · refine List.mem_cons_of_mem _ ?_
      exact List.cons_subset_cons _ (List.takeWhile_sublist _).subset hd
    · split at hfound
      · cases hfound
      · exact htext d (forall_mem_of_lineDescriptor? hfound d hd)
      · rcases Option.or_eq_some_iff.1 hfound with hfound | ⟨-, hfound⟩
        · exact htext d (forall_mem_of_lineDescriptor? hfound d hd)
        · rcases List.mem_cons.1 (forall_mem_of_lineDescriptor? hfound d hd) with rfl | hd
          · exact List.mem_cons_self
          · exact htext d hd

/-- A record of a listing is that of one of its lines. -/
theorem exists_line_of_mem_ofListing {text : String} {record : Record}
    (h : record ∈ ofListing text) :
    ∃ line ∈ Text.lines text.toList, ∃ name tag slug, splitLine? line = some (name, tag, slug)
      ∧ record = { name := String.ofList name
                   backends := [⟨String.ofList tag ++ ":" ++ String.ofList slug,
                     resolve (String.ofList tag) (String.ofList slug) .empty, []⟩] } := by
  obtain ⟨line, hline, hrecord⟩ := List.mem_filterMap.1 h
  obtain ⟨⟨name, tag, slug⟩, hsplit, rfl⟩ := Option.map_eq_some_iff.1 hrecord
  exact ⟨line, hline, name, tag, slug, hsplit, rfl⟩

/-! ### Padded rows -/

/-- A row of a listing: two columns with spaces between them, and maybe behind them. -/
def row (name : String) (k : Nat) (descriptor : String) (m : Nat) : String :=
  String.ofList (name.toList ++ spaces k ++ (descriptor.toList ++ spaces m))

theorem ofListing_row {name descriptor : String} {tag slug : List Char}
    {clause : Option (List Char)} (hne : name ≠ "") (hname : ' ' ∉ name.toList)
    (hline : '\n' ∉ name.toList) (hspace : ' ' ∉ descriptor.toList)
    (h : Descriptor.split? descriptor.toList = some (tag, slug, clause)) (hk : 0 < k) (m : Nat) :
    ofListing (row name k descriptor m)
      = [{ name, backends := [⟨String.ofList tag ++ ":" ++ String.ofList slug,
            resolve (String.ofList tag) (String.ofList slug) .empty, []⟩] }] := by
  have hlist : name.toList ≠ [] := by simpa using hne
  have hfeed : '\n' ∉ name.toList ++ spaces k ++ (descriptor.toList ++ spaces m) := by
    have hdescriptor := (Descriptor.shortest_of_split? h).one_line
    simp [hline, hdescriptor]
  rw [ofListing, row, String.toList_ofList, Text.lines_of_not_mem (by simp [hlist]) hfeed,
    List.filterMap_cons, Record.ofLine?, splitLine?_row hlist hname hspace h hk]
  simp

/-- A row has one record. Its backend has the name that the descriptor has alone, and the page of that,
whatever the padding is. -/
theorem row_splits_as_descriptor {name descriptor : String} (hne : name ≠ "")
    (hname : ' ' ∉ name.toList) (hline : '\n' ∉ name.toList) (hspace : ' ' ∉ descriptor.toList)
    (hparsed : (Descriptor.parse descriptor).isParsed = true) (hk : 0 < k) (m : Nat) :
    ofListing (row name k descriptor m)
      = [{ name, backends := [⟨(Descriptor.parse descriptor).full,
            resolve (Descriptor.parse descriptor).tag (Descriptor.parse descriptor).slug .empty,
            []⟩] }] := by
  obtain ⟨_, _, _, hsplits⟩ := Descriptor.isParsed_iff.1 hparsed
  obtain ⟨tag, slug, clause, hshortest⟩ := Descriptor.exists_shortest hsplits
  rw [ofListing_row hne hname hline hspace (Descriptor.split?_eq_some_iff.2 hshortest) hk,
    Descriptor.parse_of_shortest hshortest, Descriptor.full]
  simp [hshortest.tag_ne]

/-- Colons and brackets in the name and at the front of the descriptor. -/
theorem row_splits_as_descriptor_oddRow :
    (Descriptor.parse "::[[flag]").full = "::["
      ∧ ofListing (row "x:y[z]" 3 "::[[flag]" 2)
        = [{ name := "x:y[z]", backends := [⟨"::[", resolve ":" "[" .empty, []⟩] }] := by
  have hfull : (Descriptor.parse "::[[flag]").full = "::[" := by decide
  have hrow := row_splits_as_descriptor (show "x:y[z]" ≠ "" by decide) (by decide) (by decide)
    (show ' ' ∉ "::[[flag]".toList by decide) (by decide) (show 0 < 3 by decide) 2
  rw [hfull] at hrow
  exact ⟨hfull, hrow⟩

end Catalog.Tool
