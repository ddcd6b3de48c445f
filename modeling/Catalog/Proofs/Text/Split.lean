import Catalog.Text.Split
import Mathlib

/-!
Pieces of a text and its lines. No line holds a line feed, and a text in which every line is ended has
exactly the lines that it was put together from.
-/

namespace Catalog.Text

variable {s line : List Char}

/-! ### Pieces -/

theorem cut?_eq_none_iff {separator : Char} : cut? separator s = none ↔ separator ∉ s := by
  constructor
  · intro hcut hmem
    obtain ⟨before, after, rfl⟩ := List.append_of_mem hmem
    obtain ⟨_, _, hfound, -⟩ := cut?_le separator before after
    rw [hcut] at hfound
    cases hfound
  · intro h
    cases hcut : cut? separator s with
    | none => rfl
    | some sides =>
      obtain ⟨rfl, -⟩ := eq_append_of_cut? hcut
      simp at h

/-- Between pieces stand separators only. -/
theorem mem_intercalate_iff {separator : List Char} {c : Char} (hc : c ∉ separator) :
    ∀ {pieces : List (List Char)},
      c ∈ separator.intercalate pieces ↔ ∃ piece ∈ pieces, c ∈ piece
  | [] => by simp
  | [piece] => by simp
  | piece :: next :: rest => by
    rw [List.intercalate_cons_cons, List.mem_append, List.mem_append, mem_intercalate_iff hc]
    simp [hc]

/-- A piece between separators holds none. -/
theorem forall_mem_of_mem_splitOnP {p : Char → Bool} :
    ∀ {s piece : List Char}, piece ∈ s.splitOnP p → ∀ c ∈ piece, c ∈ s ∧ p c = false
  | [], piece, h, c, hc => by
    rw [List.splitOnP_nil, List.mem_singleton] at h
    rw [h] at hc
    cases hc
  | first :: rest, piece, h, c, hc => by
    have later : ∀ {piece : List Char}, piece ∈ rest.splitOnP p → c ∈ piece →
        c ∈ first :: rest ∧ p c = false := fun h hc =>
      have ⟨hmem, hp⟩ := forall_mem_of_mem_splitOnP h c hc
      ⟨List.mem_cons_of_mem first hmem, hp⟩
    rw [List.splitOnP_cons_eq_if_modifyHead] at h
    split at h
    · rcases List.mem_cons.1 h with rfl | h
      · cases hc
      · exact later h hc
    · rename_i hfirst
      obtain ⟨front, pieces, hpieces⟩ := List.exists_cons_of_ne_nil (List.splitOnP_ne_nil p rest)
      rw [hpieces, List.modifyHead_cons] at h
      rw [hpieces] at later
      rcases List.mem_cons.1 h with rfl | h
      · rcases List.mem_cons.1 hc with rfl | hc
        · exact ⟨List.mem_cons_self, Bool.eq_false_iff.2 hfirst⟩
        · exact later List.mem_cons_self hc
      · exact later (List.mem_cons_of_mem front h) hc

/-- There is one piece more than there are separators. -/
theorem length_splitOnP (separator : Char) (s : List Char) :
    (s.splitOnP (· = separator)).length = s.count separator + 1 := by
  induction s with
  | nil => rfl
  | cons c rest ih =>
    rw [List.splitOnP_cons_eq_if_modifyHead]
    by_cases hc : c = separator
    · simp [hc, ih]
    · simp [hc, ih]

/-! ### Lines -/

theorem mem_of_mem_dropReturn {c : Char} (h : c ∈ dropReturn line) : c ∈ line := by
  unfold dropReturn at h
  split at h
  · exact List.mem_of_mem_dropLast h
  · exact h

/-- A line is made of pieces of the text, and the line feeds stand between them. -/
theorem forall_mem_of_mem_lines (h : line ∈ lines s) : ∀ c ∈ line, c ∈ s ∧ c ≠ '\n' := by
  intro c hc
  obtain ⟨piece, hpiece, hmem⟩ : ∃ piece ∈ s.splitOnP (· = '\n'), c ∈ piece := by
    have hended : line ∈ (s.splitOnP (· = '\n')).dropLast.map dropReturn →
        ∃ piece ∈ s.splitOnP (· = '\n'), c ∈ piece := fun h => by
      obtain ⟨piece, hpiece, rfl⟩ := List.mem_map.1 h
      exact ⟨piece, List.mem_of_mem_dropLast hpiece, mem_of_mem_dropReturn hc⟩
    unfold lines at h
    dsimp only at h
    split at h
    · rename_i first rest hlast
      rcases List.mem_append.1 h with h | h
      · exact hended h
      · exact ⟨first :: rest, List.mem_of_getLast? hlast, List.mem_singleton.1 h ▸ hc⟩
    · exact hended h
  obtain ⟨hs, hfeed⟩ := forall_mem_of_mem_splitOnP hpiece c hmem
  exact ⟨hs, of_decide_eq_false hfeed⟩

theorem not_mem_of_mem_lines (h : line ∈ lines s) : '\n' ∉ line := fun hc =>
  (forall_mem_of_mem_lines h _ hc).2 rfl

/-- The first line is what stands before the first line feed. -/
theorem lines_append_feed (h : '\n' ∉ line) (rest : List Char) :
    lines (line ++ '\n' :: rest) = dropReturn line :: lines rest := by
  have hsplit : (line ++ '\n' :: rest).splitOnP (· = '\n')
      = line :: rest.splitOnP (· = '\n') :=
    List.splitOnP_append_cons_of_forall_mem (fun c hc => by simpa using forall_mem_ne h c hc) '\n'
      (by simp) rest
  obtain ⟨first, pieces, hpieces⟩ :=
    List.exists_cons_of_ne_nil (List.splitOnP_ne_nil (· = '\n') rest)
  simp only [lines, hsplit, hpieces, List.dropLast_cons_cons, List.getLast?_cons_cons, List.map_cons]
  split <;> rfl

/-- Lines, each with a line feed behind it. -/
def ended (texts : List (List Char)) : List Char :=
  texts.flatMap (· ++ ['\n'])

theorem ended_append (texts others : List (List Char)) :
    ended (texts ++ others) = ended texts ++ ended others :=
  List.flatMap_append

theorem lines_ended : ∀ {texts : List (List Char)}, (∀ line ∈ texts, '\n' ∉ line) →
    lines (ended texts) = texts.map dropReturn
  | [], _ => rfl
  | line :: rest, h => by
    obtain ⟨hline, hrest⟩ := List.forall_mem_cons.1 h
    rw [ended, List.flatMap_cons, List.append_assoc, List.singleton_append,
      lines_append_feed hline, List.map_cons, ← lines_ended hrest, ended]

end Catalog.Text
