import Catalog.Proofs.Text.Split

/-!
Words of a text and of its lines. White space parts words and is part of none, so what is trimmed from a
line is not missed in its words. Where two texts meet at a line feed, the lines of the one come after
those of the other.
-/

namespace Catalog.Text

variable {s t : List Char} {c : Char}

/-! ### Words -/

theorem words_append_blank (hc : isBlank c = true) (s t : List Char) :
    words (s ++ c :: t) = words s ++ words t := by
  rw [words, List.splitOnP_append_cons _ _ hc, List.filter_append]
  rfl

theorem words_cons_blank (hc : isBlank c = true) (t : List Char) : words (c :: t) = words t :=
  words_append_blank hc [] t

theorem words_concat_blank (hc : isBlank c = true) (s : List Char) : words (s ++ [c]) = words s := by
  rw [words_append_blank hc, show words [] = [] from rfl, List.append_nil]

theorem words_trimStart : ∀ s : List Char, words (trimStart s) = words s
  | [] => rfl
  | c :: rest => by
    rw [trimStart, List.dropWhile_cons]
    split
    · rename_i hc
      rw [words_cons_blank hc]
      exact words_trimStart rest
    · rfl

theorem words_trimEnd (s : List Char) : words (trimEnd s) = words s := by
  induction s using List.reverseRecOn with
  | nil => rfl
  | append_singleton front c ih =>
    rw [trimEnd, List.reverse_concat, List.dropWhile_cons]
    split
    · rename_i hc
      rw [words_concat_blank hc]
      exact ih
    · rw [List.reverse_cons, List.reverse_reverse]

/-- White space around a text is part of no word. -/
theorem words_trim (s : List Char) : words (trim s) = words s := by
  rw [trim, words_trimEnd, words_trimStart]

theorem words_ne_nil (hc : isBlank c = false) (rest : List Char) : words (c :: rest) ≠ [] := by
  obtain ⟨front, pieces, hpieces⟩ := List.exists_cons_of_ne_nil (List.splitOnP_ne_nil isBlank rest)
  rw [words, List.splitOnP_cons_eq_if_modifyHead, hc, hpieces]
  simp

/-- Only a blank text is without words. -/
theorem words_eq_nil_iff : ∀ {s : List Char}, words s = [] ↔ allBlank s = true
  | [] => by simp [allBlank, words]
  | c :: rest => by
    cases hc : isBlank c with
    | true =>
      rw [words_cons_blank hc, words_eq_nil_iff]
      simp [allBlank, hc]
    | false => simp [words_ne_nil hc, allBlank, hc]

theorem words_dropReturn (line : List Char) : words (dropReturn line) = words line := by
  unfold dropReturn
  split
  · rename_i hlast
    obtain ⟨front, rfl⟩ := List.getLast?_eq_some_iff.1 hlast
    rw [List.dropLast_concat, words_concat_blank (by decide)]
  · rfl

/-! ### Lines -/

/-- The lines in front of a line feed, all of which are ended. -/
theorem lines_concat_feed (s : List Char) :
    lines (s ++ ['\n']) = (s.splitOnP (· = '\n')).map dropReturn := by
  have hsplit : (s ++ ['\n']).splitOnP (· = '\n') = s.splitOnP (· = '\n') ++ [[]] :=
    List.splitOnP_append_cons s [] (by simp)
  simp [lines, hsplit]

theorem lines_feed_append (s rest : List Char) :
    lines (s ++ '\n' :: rest) = lines (s ++ ['\n']) ++ lines rest := by
  have hsplit : (s ++ '\n' :: rest).splitOnP (· = '\n')
      = s.splitOnP (· = '\n') ++ rest.splitOnP (· = '\n') :=
    List.splitOnP_append_cons s rest (by simp)
  obtain ⟨pieces, last, hlast⟩ :=
    List.eq_nil_or_concat (rest.splitOnP (· = '\n')) |>.resolve_left (List.splitOnP_ne_nil _ rest)
  rw [lines_concat_feed]
  simp only [lines, hsplit, hlast, List.concat_eq_append, ← List.append_assoc, List.dropLast_concat,
    List.getLast?_concat, List.map_append]
  split <;> simp

/-- What is read from lines one by one, from no blank one, does not show whether the last line is ended. -/
theorem filterMap_lines_concat_feed {α : Type} {f : List Char → Option α} (hblank : f [] = none)
    (hreturn : ∀ line, f (dropReturn line) = f line) (s : List Char) :
    (lines (s ++ ['\n'])).filterMap f = (lines s).filterMap f := by
  obtain ⟨pieces, last, hlast⟩ :=
    List.eq_nil_or_concat (s.splitOnP (· = '\n')) |>.resolve_left (List.splitOnP_ne_nil _ s)
  rw [lines_concat_feed]
  simp only [lines, hlast, List.concat_eq_append, List.dropLast_concat, List.getLast?_concat,
    List.map_append]
  cases last with
  | nil => simp [hblank, hreturn]
  | cons c rest => simp [List.filterMap_cons, hreturn]

end Catalog.Text
