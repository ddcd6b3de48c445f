import Catalog.Text.Blank

/-!
Cutting text into pieces: at the first separator, into words and into lines.
-/

namespace Catalog.Text

/-- The text before and after the first `separator`, if there is one. -/
def cut? (separator : Char) : List Char → Option (List Char × List Char)
  | [] => none
  | c :: rest =>
    if c = separator then some ([], rest)
    else (cut? separator rest).map fun (before, after) => (c :: before, after)

theorem cut?_append {separator : Char} {before : List Char} (h : separator ∉ before)
    (after : List Char) : cut? separator (before ++ separator :: after) = some (before, after) := by
  induction before with
  | nil => simp [cut?]
  | cons c rest ih =>
    simp only [List.mem_cons, not_or] at h
    simp [cut?, Ne.symm h.1, ih h.2]

theorem eq_append_of_cut? {separator : Char} {s before after : List Char}
    (h : cut? separator s = some (before, after)) :
    s = before ++ separator :: after ∧ separator ∉ before := by
  induction s generalizing before with
  | nil => simp [cut?] at h
  | cons c rest ih =>
    by_cases hc : c = separator
    · simp only [cut?, hc, if_true, Option.some.injEq, Prod.mk.injEq] at h
      simp [← h.1, ← h.2, hc]
    · simp only [cut?, hc, if_false, Option.map_eq_some_iff, Prod.mk.injEq, Prod.exists] at h
      obtain ⟨b, a, hba, rfl, rfl⟩ := h
      obtain ⟨rfl, hb⟩ := ih hba
      simp [hb, Ne.symm hc]

/-- No separator stands before the one that the text is cut at. -/
theorem cut?_le (separator : Char) : ∀ before after : List Char, ∃ b a,
    cut? separator (before ++ separator :: after) = some (b, a) ∧ b.length ≤ before.length
  | [], after => ⟨[], after, by simp [cut?], by simp⟩
  | c :: before, after => by
    by_cases hc : c = separator
    · exact ⟨[], before ++ separator :: after, by simp [cut?, hc], by simp⟩
    · obtain ⟨b, a, hcut, hle⟩ := cut?_le separator before after
      exact ⟨c :: b, a, by simp [cut?, hc, hcut], by simpa using hle⟩

theorem forall_mem_ne {separator : Char} {before : List Char} (h : separator ∉ before) :
    ∀ c ∈ before, decide (c ≠ separator) = true := by
  intro c hc
  rw [decide_eq_true_eq]
  rintro rfl
  exact h hc

theorem splitOnP_of_not_mem {separator : Char} {s : List Char} (h : separator ∉ s) :
    s.splitOnP (· = separator) = [s] :=
  List.splitOnP_eq_singleton fun c hc => by simpa using forall_mem_ne h c hc

theorem takeWhile_ne {separator : Char} {before : List Char} (h : separator ∉ before)
    (after : List Char) : (before ++ separator :: after).takeWhile (· ≠ separator) = before := by
  rw [List.takeWhile_append_of_pos (forall_mem_ne h)]
  simp

theorem dropWhile_ne {separator : Char} {before : List Char} (h : separator ∉ before)
    (after : List Char) :
    (before ++ separator :: after).dropWhile (· ≠ separator) = separator :: after := by
  rw [List.dropWhile_append_of_pos (forall_mem_ne h)]
  simp

/-- The maximal runs of characters that are not white space. -/
def words (s : List Char) : List (List Char) :=
  (s.splitOnP isBlank).filter (· ≠ [])

/-- A line without the one carriage return that may stand before its line feed. -/
def dropReturn (line : List Char) : List Char :=
  if line.getLast? = some '\r' then line.dropLast else line

/-- The lines ended by a line feed, and a last line that is not ended if it is not empty. Only an
ended line loses a carriage return. -/
def lines (s : List Char) : List (List Char) :=
  let pieces := s.splitOnP (· = '\n')
  let ended := pieces.dropLast.map dropReturn
  match pieces.getLast? with
  | some (c :: rest) => ended ++ [c :: rest]
  | _ => ended

/-- A text without a line feed is one line, which keeps its carriage return. -/
theorem lines_of_not_mem {s : List Char} (hne : s ≠ []) (h : '\n' ∉ s) : lines s = [s] := by
  rw [lines, splitOnP_of_not_mem h]
  cases s with
  | nil => exact absurd rfl hne
  | cons c rest => rfl

/-- The lines that are not blank, without the white space around them. -/
def rows (s : List Char) : List (List Char) :=
  ((lines s).map trim).filter (· ≠ [])

end Catalog.Text
