import Catalog.Proofs.Text.Words
import Catalog.Proofs.Tool.Listing

/-!
Which of its readings a row of a listing gets. A line may be read as a name, spaces and a descriptor in
several ways, as spaces may stand in every column. Main statement: a line has a record exactly if there is
a way to read it, and the record is that of the way with the shortest name, then with the most spaces, the
shortest tag and the shortest slug. What carries this is that a longer name never helps: what it has more
than the shortest one, a tag may have as well.
-/

namespace Catalog.Tool

open Backend (Descriptor)
open Backend.Descriptor (bracketed cutLate? splitClause)

variable {line name text tag slug : List Char} {clause : Option (List Char)} {k m : Nat}

/-- A way to read a line: a name, some spaces, a tag and a slug with a colon between them, and behind
them maybe a clause and spaces. -/
structure Reads (line name : List Char) (k : Nat) (tag slug : List Char)
    (clause : Option (List Char)) (m : Nat) : Prop where
  name_ne : name ≠ []
  padded : 1 ≤ k
  tag_ne : tag ≠ []
  slug_ne : slug ≠ []
  clause_ne : clause ≠ some []
  written : line = name ++ (spaces k ++ (tag ++ ':' :: (slug ++ (bracketed clause ++ spaces m))))

/-- The way with the shortest name, then with the most spaces behind it, then with the shortest tag and
then with the shortest slug. -/
structure Preferred (line name : List Char) (k : Nat) (tag slug : List Char)
    (clause : Option (List Char)) (m : Nat) : Prop extends Reads line name k tag slug clause m where
  name_le : ∀ {name' k' tag' slug' clause' m'}, Reads line name' k' tag' slug' clause' m' →
    name.length ≤ name'.length
  padding_ge : ∀ {k' tag' slug' clause' m'}, Reads line name k' tag' slug' clause' m' → k' ≤ k
  tag_le : ∀ {tag' slug' clause' m'}, Reads line name k tag' slug' clause' m' →
    tag.length ≤ tag'.length
  slug_le : ∀ {slug' clause' m'}, Reads line name k tag slug' clause' m' → slug.length ≤ slug'.length

/-- No other way is preferred. -/
theorem Preferred.unique {name' tag' slug' : List Char} {clause' : Option (List Char)} {k' m' : Nat}
    (h : Preferred line name k tag slug clause m) (h' : Preferred line name' k' tag' slug' clause' m') :
    name = name' ∧ tag = tag' ∧ slug = slug' := by
  obtain ⟨rfl, hbehind⟩ := List.append_inj (h.written.symm.trans h'.written)
    (Nat.le_antisymm (h.name_le h'.toReads) (h'.name_le h.toReads))
  have hk : k = k' := Nat.le_antisymm (h'.padding_ge h.toReads) (h.padding_ge h'.toReads)
  rw [← hk] at h' hbehind
  obtain ⟨rfl, hcolon⟩ := List.append_inj (List.append_cancel_left hbehind)
    (Nat.le_antisymm (h.tag_le h'.toReads) (h'.tag_le h.toReads))
  obtain ⟨rfl, -⟩ := List.append_inj (List.cons.inj hcolon).2
    (Nat.le_antisymm (h.slug_le h'.toReads) (h'.slug_le h.toReads))
  exact ⟨rfl, rfl, rfl⟩

/-! ### Spaces -/

theorem spaces_succ (k : Nat) : spaces (k + 1) = ' ' :: spaces k :=
  List.replicate_succ

theorem spaces_succ' (k : Nat) : spaces (k + 1) = spaces k ++ [' '] :=
  List.replicate_succ'

theorem dropFinalSpaces_eq_self {s : List Char} (h : s.getLast? ≠ some ' ') : dropFinalSpaces s = s := by
  obtain rfl | ⟨front, c, rfl⟩ := List.eq_nil_or_concat s
  · rfl
  · rw [List.concat_eq_append] at h ⊢
    rw [List.getLast?_concat] at h
    have hc : ¬ c = ' ' := fun hc => h (hc ▸ rfl)
    simp [dropFinalSpaces, hc]

theorem dropFinalSpaces_append_spaces (s : List Char) (m : Nat) :
    dropFinalSpaces (s ++ spaces m) = dropFinalSpaces s := by
  rw [dropFinalSpaces, List.reverse_append, List.reverse_replicate,
    List.dropWhile_append_of_pos (forall_mem_spaces m), ← dropFinalSpaces]

theorem length_dropFinalSpaces_le (s : List Char) : (dropFinalSpaces s).length ≤ s.length := by
  rw [dropFinalSpaces, List.length_reverse]
  exact (List.dropWhile_sublist _).length_le.trans_eq List.length_reverse

theorem exists_dropFinalSpaces (s : List Char) : ∃ m, s = dropFinalSpaces s ++ spaces m := by
  induction s using List.reverseRecOn with
  | nil => exact ⟨0, rfl⟩
  | append_singleton front c ih =>
    by_cases hc : c = ' '
    · obtain ⟨m, hm⟩ := ih
      refine ⟨m + 1, ?_⟩
      rw [hc, show [' '] = spaces 1 from rfl, dropFinalSpaces_append_spaces]
      nth_rewrite 1 [hm]
      rw [List.append_assoc, ← List.replicate_add]
    · refine ⟨0, ?_⟩
      rw [dropFinalSpaces_eq_self (by simpa using hc)]
      exact (List.append_nil _).symm

/-! ### The second column -/

/-- A way to read the second column of a line. -/
structure Describes (text tag slug : List Char) (clause : Option (List Char)) (m : Nat) : Prop where
  tag_ne : tag ≠ []
  slug_ne : slug ≠ []
  clause_ne : clause ≠ some []
  written : text = tag ++ ':' :: (slug ++ (bracketed clause ++ spaces m))

/-- The way with the shortest tag and, for that tag, with the shortest slug. -/
structure DescribesFirst (text tag slug : List Char) (clause : Option (List Char)) (m : Nat) : Prop
    extends Describes text tag slug clause m where
  tag_le : ∀ {tag' slug' clause' m'}, Describes text tag' slug' clause' m' → tag.length ≤ tag'.length
  slug_le : ∀ {slug' clause' m'}, Describes text tag slug' clause' m' → slug.length ≤ slug'.length

/-- No way to read the text behind the colon has a shorter slug. -/
theorem length_slug_le {c : Char} {rest : List Char} (hslug : slug ≠ []) (hclause : clause ≠ some [])
    (h : c :: rest = slug ++ (bracketed clause ++ spaces m)) :
    (splitClause (c :: dropFinalSpaces rest)).1.length ≤ slug.length := by
  obtain ⟨first, more, rfl⟩ := List.exists_cons_of_ne_nil hslug
  rw [List.cons_append, List.cons.injEq] at h
  obtain ⟨rfl, rfl⟩ := h
  rw [← List.append_assoc, dropFinalSpaces_append_spaces]
  cases clause with
  | none =>
    obtain ⟨-, -, hwritten⟩ := Descriptor.splitClause_written
      (List.cons_ne_nil c (dropFinalSpaces (more ++ bracketed none)))
    have hlen := congrArg List.length hwritten
    have hle := length_dropFinalSpaces_le more
    simp only [bracketed, List.append_nil, List.length_cons, List.length_append] at hlen hle ⊢
    omega
  | some inner =>
    have hlast : (more ++ bracketed (some inner)).getLast? ≠ some ' ' := by
      simp [bracketed, List.getLast?_append, List.getLast?_cons]
    rw [dropFinalSpaces_eq_self hlast]
    exact Descriptor.splitClause_le hslug hclause

theorem describesFirst_of_lineDescriptor? (h : lineDescriptor? text = some (tag, slug)) :
    ∃ clause m, DescribesFirst text tag slug clause m := by
  unfold lineDescriptor? at h
  split at h
  · rename_i tag' c rest hcut
    obtain ⟨rfl, hslug⟩ := Prod.mk.inj (Option.some.inj h)
    obtain ⟨htag, htext⟩ := Descriptor.eq_append_of_cutLate? hcut
    obtain ⟨hne, hclause, hbody⟩ :=
      Descriptor.splitClause_written (List.cons_ne_nil c (dropFinalSpaces rest))
    obtain ⟨m, hrest⟩ := exists_dropFinalSpaces rest
    rw [hslug] at hne hbody
    refine ⟨(splitClause (c :: dropFinalSpaces rest)).2, m, ⟨⟨htag, hne, hclause, ?_⟩, ?_, ?_⟩⟩
    · rw [← List.append_assoc, ← hbody, List.cons_append, ← hrest, htext]
    · intro tag₂ slug₂ clause₂ m₂ hother
      obtain ⟨b, a, hcut₂, hle⟩ :=
        Descriptor.cutLate?_le ':' hother.tag_ne (slug₂ ++ (bracketed clause₂ ++ spaces m₂))
      rw [← hother.written, hcut] at hcut₂
      cases hcut₂
      exact hle
    · intro slug₂ clause₂ m₂ hother
      have hsame := List.append_cancel_left (htext.symm.trans hother.written)
      have hle := length_slug_le hother.slug_ne hother.clause_ne (List.cons.inj hsame).2
      rwa [hslug] at hle
  · cases h

theorem Describes.exists_lineDescriptor? (h : Describes text tag slug clause m) :
    ∃ found, lineDescriptor? text = some found := by
  obtain ⟨b, c, rest, hcut⟩ := Descriptor.exists_cutLate? ':' h.tag_ne
    (List.append_ne_nil_of_left_ne_nil h.slug_ne (bracketed clause ++ spaces m))
  rw [← h.written] at hcut
  exact ⟨_, by rw [lineDescriptor?, hcut]⟩

theorem Reads.describes (h : Reads line name k tag slug clause m)
    (hline : line = name ++ (spaces k ++ text)) :
    Describes text tag slug clause m :=
  ⟨h.tag_ne, h.slug_ne, h.clause_ne,
    List.append_cancel_left (List.append_cancel_left (hline.symm.trans h.written))⟩

/-! ### The first column -/

/-- The first column of a line: the text up to the first space behind its first character, and all the
spaces there. -/
structure Column (line name : List Char) (k : Nat) (text : List Char) : Prop where
  name_ne : name ≠ []
  name_space : ' ' ∉ name.tail
  text_start : text.head? ≠ some ' '
  text_nil : k = 0 → text = []
  written : line = name ++ (spaces k ++ text)

theorem takeWhile_padding (h : text.head? ≠ some ' ') (k : Nat) :
    (spaces k ++ text).takeWhile (· = ' ') = spaces k
      ∧ (spaces k ++ text).dropWhile (· = ' ') = text := by
  cases text with
  | nil =>
    rw [List.append_nil]
    exact ⟨List.takeWhile_eq_self_iff.2 (forall_mem_spaces k),
      List.dropWhile_eq_nil_iff.2 (forall_mem_spaces k)⟩
  | cons c rest =>
    have hc : c ≠ ' ' := fun hc => h (congrArg some hc)
    exact ⟨takeWhile_spaces hc k rest, dropWhile_spaces hc k rest⟩

theorem exists_column (hline : line ≠ []) : ∃ name k text, Column line name k text := by
  obtain ⟨first, rest, rfl⟩ := List.exists_cons_of_ne_nil hline
  let behind := rest.dropWhile (· ≠ ' ')
  have hspaces : behind.takeWhile (· = ' ') = spaces (behind.takeWhile (· = ' ')).length :=
    List.eq_replicate_iff.2 ⟨rfl, fun c hc => by simpa using List.mem_takeWhile_imp hc⟩
  refine ⟨first :: rest.takeWhile (· ≠ ' '), (behind.takeWhile (· = ' ')).length,
    behind.dropWhile (· = ' '), ⟨List.cons_ne_nil _ _, ?_, ?_, ?_, ?_⟩⟩
  · intro hmem
    simpa using List.mem_takeWhile_imp hmem
  · intro hhead
    have hnot := List.head?_dropWhile_not (· = ' ') behind
    rw [hhead] at hnot
    simp at hnot
  · intro hnone
    have hhead := List.head?_dropWhile_not (· ≠ ' ') rest
    cases hbehind : behind with
    | nil => rfl
    | cons c more =>
      rw [show rest.dropWhile (· ≠ ' ') = c :: more from hbehind] at hhead
      rw [hbehind] at hnone
      simp_all
  · rw [← hspaces, List.takeWhile_append_dropWhile, List.cons_append,
      List.takeWhile_append_dropWhile]

theorem Column.splitLine?_eq (h : Column line name k text) :
    splitLine? line = (match k with
      | 0 => none
      | 1 => lineDescriptor? text
      | _ => (lineDescriptor? text).or (lineDescriptor? (' ' :: text))).map
        fun (tag, slug) => (name, tag, slug) := by
  obtain ⟨hne, hname, hstart, hnil, rfl⟩ := h
  obtain ⟨first, name, rfl⟩ := List.exists_cons_of_ne_nil hne
  rw [List.tail_cons] at hname
  obtain ⟨htake, hdrop⟩ := takeWhile_padding hstart k
  rw [List.cons_append, splitLine?]
  cases k with
  | zero =>
    have hbehind : (name ++ (spaces 0 ++ text)).dropWhile (· ≠ ' ') = [] := by
      rw [hnil rfl, spaces, List.replicate_zero, List.append_nil, List.append_nil]
      exact List.dropWhile_eq_nil_iff.2 (Text.forall_mem_ne hname)
    dsimp only
    rw [hbehind]
    rfl
  | succ k =>
    have hspace : spaces (k + 1) ++ text = ' ' :: (spaces k ++ text) := by
      rw [spaces_succ, List.cons_append]
    dsimp only
    rw [hspace, Text.takeWhile_ne hname, Text.dropWhile_ne hname, ← hspace, htake, hdrop]
    cases k <;> rfl

/-- A name of any way is the first column, or goes on behind it. -/
theorem Column.exists_append {name' : List Char} {k' : Nat} (h : Column line name k text)
    (h' : Reads line name' k' tag slug clause m) : ∃ more, name' = name ++ more := by
  obtain ⟨k', rfl⟩ := Nat.exists_eq_succ_of_ne_zero (Nat.one_le_iff_ne_zero.1 h'.padded)
  have hline := h'.written.symm.trans h.written
  rcases List.append_eq_append_iff.1 hline with ⟨front, hfront, hback⟩ | ⟨more, hmore, -⟩
  · cases front with
    | nil => exact ⟨[], by rw [hfront]; simp⟩
    | cons c front =>
      -- a shorter name would leave a space in the column
      rw [spaces_succ, List.cons_append, List.cons_append] at hback
      obtain ⟨rfl, -⟩ := List.cons.inj hback
      obtain ⟨first, name', rfl⟩ := List.exists_cons_of_ne_nil h'.name_ne
      exact absurd (by simp [hfront]) h.name_space
  · exact ⟨more, hmore⟩

/-- A longer run of spaces would leave one at the start of the text. -/
theorem le_of_padding {other : List Char} {j : Nat} (h : text.head? ≠ some ' ')
    (heq : spaces k ++ text = spaces j ++ other) : j ≤ k := by
  by_contra hlt
  obtain ⟨d, rfl⟩ := Nat.exists_eq_add_of_lt (Nat.lt_of_not_le hlt)
  rw [spaces, spaces, Nat.add_assoc, List.replicate_add, List.append_assoc] at heq
  have htext := List.append_cancel_left heq
  rw [htext, List.replicate_succ] at h
  exact h rfl

/-- However a line is read, its colon stands behind the spaces of the first column, and there is a
character for the tag before it: one of the text, or the last one of several spaces. -/
theorem Column.exists_front {name' : List Char} {k' : Nat} (h : Column line name k text)
    (h' : Reads line name' k' tag slug clause m) :
    ∃ front, text = front ++ ':' :: (slug ++ (bracketed clause ++ spaces m)) ∧ (front = [] → 2 ≤ k) := by
  obtain ⟨more, rfl⟩ := h.exists_append h'
  have hline := h.written.symm.trans h'.written
  rw [List.append_assoc] at hline
  have hbehind : spaces k ++ text
      = (more ++ (spaces k' ++ tag)) ++ ':' :: (slug ++ (bracketed clause ++ spaces m)) := by
    simpa using List.append_cancel_left hline
  have hlen : 2 ≤ (more ++ (spaces k' ++ tag)).length := by
    have htag := List.length_pos_iff.2 h'.tag_ne
    have hpadded := h'.padded
    simp only [List.length_append, List.length_replicate]
    omega
  rcases List.append_eq_append_iff.1 hbehind with ⟨front, hfront, htext⟩ | ⟨back, hback, htext⟩
  · refine ⟨front, htext, ?_⟩
    rintro rfl
    rw [hfront] at hlen
    simpa using hlen
  · -- the colon is none of the spaces
    cases back with
    | nil =>
      refine ⟨[], by simpa using htext.symm, fun _ => ?_⟩
      rw [← List.append_nil (more ++ _), ← hback] at hlen
      simpa using hlen
    | cons c back =>
      obtain ⟨rfl, -⟩ := List.cons.inj htext
      have hcolon : ':' ∈ spaces k := by simp [hback]
      exact absurd (List.mem_replicate.1 hcolon).2 (by decide)

/-! ### Lines -/

/-- The first column and the first way to read what is behind it make the way that is preferred, if no
way leaves more spaces. -/
theorem Column.preferred {behind : List Char} {j : Nat} (h : Column line name k text) (hj : 1 ≤ j)
    (hbehind : spaces k ++ text = spaces j ++ behind) (hfirst : DescribesFirst behind tag slug clause m)
    (hmost : ∀ {k' tag' slug' clause' m'}, Reads line name k' tag' slug' clause' m' → k' ≤ j) :
    Preferred line name j tag slug clause m := by
  have hline : line = name ++ (spaces j ++ behind) := by rw [h.written, hbehind]
  refine ⟨⟨h.name_ne, hj, hfirst.tag_ne, hfirst.slug_ne, hfirst.clause_ne, ?_⟩, ?_, hmost, ?_, ?_⟩
  · rw [hline, hfirst.written]
  · intro name' _ _ _ _ _ hother
    obtain ⟨more, rfl⟩ := h.exists_append hother
    simp
  · exact fun hother => hfirst.tag_le (hother.describes hline)
  · exact fun hother => hfirst.slug_le (hother.describes hline)

theorem preferred_of_splitLine? (h : splitLine? line = some (name, tag, slug)) :
    ∃ k clause m, Preferred line name k tag slug clause m := by
  have hline : line ≠ [] := by
    rintro rfl
    cases h
  obtain ⟨name', k, text, hcolumn⟩ := exists_column hline
  rw [hcolumn.splitLine?_eq, Option.map_eq_some_iff] at h
  obtain ⟨⟨tag', slug'⟩, hfound, hparts⟩ := h
  obtain ⟨rfl, rfl, rfl⟩ : name' = name ∧ tag' = tag ∧ slug' = slug := by simpa using hparts
  have hmost : ∀ {k' tag' slug' clause' m'}, Reads line name' k' tag' slug' clause' m' → k' ≤ k :=
    fun hother => le_of_padding hcolumn.text_start
      (List.append_cancel_left (hcolumn.written.symm.trans hother.written))
  have hwhole : lineDescriptor? text = some (tag', slug') → 1 ≤ k →
      ∃ k clause m, Preferred line name' k tag' slug' clause m := fun hfound hk => by
    obtain ⟨clause, m, hfirst⟩ := describesFirst_of_lineDescriptor? hfound
    exact ⟨k, clause, m, hcolumn.preferred hk rfl hfirst hmost⟩
  match k, hfound with
  | 1, hfound => exact hwhole hfound le_rfl
  | k + 2, hfound =>
    rcases Option.or_eq_some_iff.1 hfound with hfound | ⟨hnone, hfound⟩
    · exact hwhole hfound (by omega)
    · obtain ⟨clause, m, hfirst⟩ := describesFirst_of_lineDescriptor? hfound
      have hbehind : spaces (k + 2) ++ text = spaces (k + 1) ++ ' ' :: text := by
        rw [spaces_succ', List.append_assoc, List.singleton_append]
      refine ⟨k + 1, clause, m, hcolumn.preferred (by omega) hbehind hfirst fun {k' _ _ _ _} hother => ?_⟩
      -- with all the spaces, the text alone would be read
      have hne : k' ≠ k + 2 := by
        rintro rfl
        obtain ⟨_, hsome⟩ := (hother.describes hcolumn.written).exists_lineDescriptor?
        rw [hnone] at hsome
        cases hsome
      have hle := hmost hother
      omega

theorem Reads.exists_splitLine? (h : Reads line name k tag slug clause m) :
    ∃ found, splitLine? line = some found := by
  have hline : line ≠ [] := by
    rw [h.written]
    simp [h.name_ne]
  obtain ⟨name', k', text, hcolumn⟩ := exists_column hline
  obtain ⟨front, htext, hfront⟩ := hcolumn.exists_front h
  have hbehind : ∀ {front}, front ≠ [] → ∃ found, lineDescriptor?
      (front ++ ':' :: (slug ++ (bracketed clause ++ spaces m))) = some found := fun hne =>
    (Describes.mk hne h.slug_ne h.clause_ne rfl).exists_lineDescriptor?
  rw [hcolumn.splitLine?_eq]
  cases front with
  | nil =>
    obtain ⟨found, hfound⟩ := hbehind (List.cons_ne_nil ' ' [])
    rw [List.nil_append] at htext
    rw [List.singleton_append, ← htext] at hfound
    match k', hfront rfl with
    | k' + 2, _ => cases lineDescriptor? text <;> simp [hfound]
  | cons c front =>
    obtain ⟨found, hfound⟩ := hbehind (List.cons_ne_nil c front)
    rw [← htext] at hfound
    match k' with
    | 0 => simp [hcolumn.text_nil rfl] at htext
    | 1 => simp [hfound]
    | k' + 2 => simp [hfound]

/-- Splitting a line finds the way that is preferred. -/
theorem splitLine?_eq_some_iff : splitLine? line = some (name, tag, slug)
    ↔ ∃ k clause m, Preferred line name k tag slug clause m := by
  refine ⟨preferred_of_splitLine?, ?_⟩
  rintro ⟨_, _, _, h⟩
  obtain ⟨⟨name', tag', slug'⟩, hfound⟩ := h.toReads.exists_splitLine?
  obtain ⟨_, _, _, h'⟩ := preferred_of_splitLine? hfound
  obtain ⟨rfl, rfl, rfl⟩ := h.unique h'
  exact hfound

/-- A space of the padding is a tag if there is no other one. -/
example : splitLine? "x  :b".toList = some (['x'], [' '], ['b'])
    ∧ splitLine? "x  :b:c".toList = some (['x'], [':', 'b'], ['c']) := by decide

theorem splitLine?_eq_none_iff : splitLine? line = none
    ↔ ¬ ∃ name k tag slug clause m, Reads line name k tag slug clause m := by
  constructor
  · rintro hnone ⟨_, _, _, _, _, _, h⟩
    obtain ⟨_, hfound⟩ := h.exists_splitLine?
    rw [hnone] at hfound
    cases hfound
  · intro hno
    refine Option.eq_none_iff_forall_ne_some.2 fun ⟨name, tag, slug⟩ hfound => ?_
    obtain ⟨k, clause, m, h⟩ := preferred_of_splitLine? hfound
    exact hno ⟨name, k, tag, slug, clause, m, h.toReads⟩

/-! ### Listings -/

/-- The record of a line that is read as a name, a tag and a slug. -/
def rowRecord (name tag slug : List Char) : Record where
  name := String.ofList name
  backends := [⟨String.ofList tag ++ ":" ++ String.ofList slug,
    Backend.resolve (String.ofList tag) (String.ofList slug) .empty, []⟩]

/-- The records of lines: one for each line that can be read, made from the way that is preferred, and
none for any other line. -/
inductive Listed : List (List Char) → List Record → Prop
  | nil : Listed [] []
  | row {line name tag slug k clause m lines records} (h : Preferred line name k tag slug clause m)
    (hrest : Listed lines records) : Listed (line :: lines) (rowRecord name tag slug :: records)
  | other {line lines records} (h : ¬ ∃ name k tag slug clause m, Reads line name k tag slug clause m)
    (hrest : Listed lines records) : Listed (line :: lines) records

theorem ofLine?_of_preferred (h : Preferred line name k tag slug clause m) :
    Record.ofLine? line = some (rowRecord name tag slug) := by
  rw [Record.ofLine?, splitLine?_eq_some_iff.2 ⟨k, clause, m, h⟩]
  rfl

theorem ofLine?_of_not_reads (h : ¬ ∃ name k tag slug clause m, Reads line name k tag slug clause m) :
    Record.ofLine? line = none := by
  rw [Record.ofLine?, splitLine?_eq_none_iff.2 h]
  rfl

theorem listed_filterMap : ∀ lines, Listed lines (lines.filterMap Record.ofLine?)
  | [] => .nil
  | line :: lines => by
    rw [List.filterMap_cons]
    by_cases h : ∃ name k tag slug clause m, Reads line name k tag slug clause m
    · obtain ⟨_, _, _, _, _, _, hreads⟩ := h
      obtain ⟨⟨name, tag, slug⟩, hfound⟩ := hreads.exists_splitLine?
      obtain ⟨_, _, _, hpreferred⟩ := preferred_of_splitLine? hfound
      rw [ofLine?_of_preferred hpreferred]
      exact .row hpreferred (listed_filterMap lines)
    · rw [ofLine?_of_not_reads h]
      exact .other h (listed_filterMap lines)

theorem Listed.eq_filterMap {lines : List (List Char)} {records : List Record}
    (h : Listed lines records) : records = lines.filterMap Record.ofLine? := by
  induction h with
  | nil => rfl
  | row hpreferred _ ih => rw [List.filterMap_cons, ofLine?_of_preferred hpreferred, ih]
  | other hno _ ih => rw [List.filterMap_cons, ofLine?_of_not_reads hno, ih]

/-- The records of a listing are those of its lines, in order: one for each line that can be read, made
from the way that is preferred. What is listed behind a line feed neither changes what is listed before it
nor is changed by it. -/
theorem ofListing_by_reading (text : String) :
    (∀ records, Listed (Text.lines text.toList) records ↔ records = ofListing text)
      ∧ ∀ rest : String, ofListing (text ++ "\n" ++ rest) = ofListing (text ++ "\n") ++ ofListing rest := by
  refine ⟨fun records => ⟨Listed.eq_filterMap, ?_⟩, fun rest => ?_⟩
  · rintro rfl
    exact listed_filterMap _
  · have hfeed : (text ++ "\n" ++ rest).toList = text.toList ++ '\n' :: rest.toList := by simp
    have hended : (text ++ "\n").toList = text.toList ++ ['\n'] := by simp
    rw [ofListing, hfeed, Text.lines_feed_append, List.filterMap_append, ← hended]
    rfl

end Catalog.Tool
