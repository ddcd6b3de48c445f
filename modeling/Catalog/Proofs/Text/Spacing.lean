import Catalog.Proofs.Text.Words

/-!
Words with single spaces between them. Main statement: a text without white space at its ends is its own
words with single spaces between them exactly if it has no other white space than single spaces.
-/

namespace Catalog.Text

variable {s rest : List Char} {c d : Char}

/-- The words of a text with a space between each two. -/
def spaced (s : List Char) : List Char :=
  [' '].intercalate (words s)

/-- A text in which all white space is spaces, and no two of them stand side by side. -/
structure SingleSpaced (s : List Char) : Prop where
  space : ∀ c ∈ s, isBlank c = true → c = ' '
  apart : s.IsChain fun c d => isBlank c = true → isBlank d = false

theorem singleSpaced_iff : SingleSpaced s ↔ (∀ c ∈ s, isBlank c = true → c = ' ')
    ∧ s.IsChain fun c d => isBlank c = true → isBlank d = false :=
  ⟨fun h => ⟨h.space, h.apart⟩, fun h => ⟨h.1, h.2⟩⟩

instance (s : List Char) : Decidable (SingleSpaced s) :=
  decidable_of_iff' _ singleSpaced_iff

theorem singleSpaced_nil : SingleSpaced [] :=
  ⟨by simp, .nil⟩

theorem singleSpaced_cons (hc : isBlank c = false) : SingleSpaced (c :: s) ↔ SingleSpaced s := by
  simp [singleSpaced_iff, List.isChain_cons, hc]

theorem singleSpaced_blank_cons (hd : isBlank d = true) : SingleSpaced (d :: c :: rest)
    ↔ d = ' ' ∧ isBlank c = false ∧ SingleSpaced (c :: rest) := by
  simp only [singleSpaced_iff, List.forall_mem_cons, List.isChain_cons_cons, hd, forall_const]
  tauto

/-! ### Trimming -/

theorem isBlank_of_head?_dropWhile (h : c ∈ (s.dropWhile isBlank).head?) : isBlank c = false := by
  have hnot := List.head?_dropWhile_not isBlank s
  rw [Option.mem_def] at h
  rw [h] at hnot
  exact hnot

theorem isTrimmed_trim (s : List Char) : IsTrimmed (trim s) := by
  constructor
  · intro c hc
    have hprefix : trim s <+: trimStart s := by
      have hsuffix := List.dropWhile_suffix isBlank (l := (trimStart s).reverse)
      rwa [← List.reverse_prefix, List.reverse_reverse] at hsuffix
    obtain ⟨back, hback⟩ := hprefix
    obtain ⟨front, hfront⟩ := List.head?_eq_some_iff.1 hc
    refine isBlank_of_head?_dropWhile (s := s) ?_
    rw [← trimStart, ← hback, hfront]
    rfl
  · intro c hc
    rw [trim, trimEnd, List.getLast?_reverse] at hc
    exact isBlank_of_head?_dropWhile hc

/-- The end of a trimmed text is trimmed, if it does not start with white space. -/
theorem isTrimmed_of_append (front : List Char) (h : IsTrimmed (front ++ d :: rest))
    (hd : isBlank d = false) : IsTrimmed (d :: rest) := by
  refine ⟨fun e he => Option.some.inj he ▸ hd, fun e he => h.2 e ?_⟩
  rw [List.getLast?_append_of_ne_nil _ (by simp)]
  exact he

/-! ### The words of a text one by one -/

theorem words_of_forall (hne : s ≠ []) (h : ∀ c ∈ s, isBlank c = false) : words s = [s] := by
  rw [words, List.splitOnP_eq_singleton fun c hc => h c hc]
  simp [hne]

/-- A text that does not start with white space starts with its first word. -/
theorem words_cons (hc : isBlank c = false) (rest : List Char) : words (c :: rest)
    = (c :: rest.takeWhile (!isBlank ·)) :: words (rest.dropWhile (!isBlank ·)) := by
  have hword : words (c :: rest.takeWhile (!isBlank ·)) = [c :: rest.takeWhile (!isBlank ·)] := by
    refine words_of_forall (by simp) (List.forall_mem_cons.2 ⟨hc, fun d hd => ?_⟩)
    simpa using List.mem_takeWhile_imp hd
  have happend : c :: rest = (c :: rest.takeWhile (!isBlank ·)) ++ rest.dropWhile (!isBlank ·) := by
    rw [List.cons_append, List.takeWhile_append_dropWhile]
  cases hbehind : rest.dropWhile (!isBlank ·) with
  | nil =>
    rw [hbehind, List.append_nil] at happend
    rw [happend, hword]
    rfl
  | cons d tail =>
    have hd : isBlank d = true := by
      have hnot := List.head?_dropWhile_not (!isBlank ·) rest
      rw [hbehind] at hnot
      simpa using hnot
    rw [happend, hbehind, words_append_blank hd, words_cons_blank hd, hword]
    rfl

theorem spaced_eq_nil_iff : spaced s = [] ↔ words s = [] := by
  rw [spaced]
  have hne : ∀ word ∈ words s, word ≠ [] := fun word hword => by
    simpa using (List.mem_filter.1 hword).2
  rcases hwords : words s with _ | ⟨first, _ | ⟨second, more⟩⟩
  · simp
  · simpa using hne first (hwords ▸ List.mem_cons_self)
  · simp

/-- No white space comes first. -/
theorem isBlank_of_head?_spaced (h : c ∈ (spaced s).head?) : isBlank c = false := by
  cases hstart : trimStart s with
  | nil =>
    rw [spaced, ← words_trimStart, hstart] at h
    cases h
  | cons d rest =>
    have hd : isBlank d = false := isBlank_of_head?_dropWhile (s := s) (by rw [← trimStart, hstart]; rfl)
    rw [spaced, ← words_trimStart, hstart, words_cons hd] at h
    have hhead : ([' '].intercalate ((d :: rest.takeWhile (!isBlank ·))
        :: words (rest.dropWhile (!isBlank ·)))).head? = some d := by
      cases words (rest.dropWhile (!isBlank ·)) <;> simp
    rw [hhead] at h
    exact Option.some.inj h ▸ hd

/-! ### Texts with single spaces -/

theorem spaced_cons_cons (hc : isBlank c = false) (hd : isBlank d = false) (rest : List Char) :
    spaced (c :: d :: rest) = c :: spaced (d :: rest) := by
  rw [spaced, spaced, words_cons hc, words_cons hd, List.takeWhile_cons_of_pos (by simpa using hd),
    List.dropWhile_cons_of_pos (by simpa using hd)]
  cases words (rest.dropWhile (!isBlank ·)) <;> simp

theorem spaced_cons_blank (hc : isBlank c = false) (hd : isBlank d = true) (hrest : words rest ≠ []) :
    spaced (c :: d :: rest) = c :: ' ' :: spaced rest := by
  obtain ⟨word, more, hwords⟩ := List.exists_cons_of_ne_nil hrest
  have hword : words [c] = [[c]] := words_of_forall (by simp) (by simpa using hc)
  rw [spaced, spaced, show c :: d :: rest = [c] ++ d :: rest from rfl, words_append_blank hd, hword,
    hwords, List.singleton_append, List.intercalate_cons_cons]
  rfl

/-- A text without white space at its ends is its own words with single spaces between them if and only
if it has no other white space. -/
theorem spaced_eq_self_iff : ∀ {s : List Char}, IsTrimmed s → (spaced s = s ↔ SingleSpaced s)
  | [], _ => iff_of_true rfl singleSpaced_nil
  | [c], h => by
    have hc : isBlank c = false := h.1 c rfl
    have hwords : words [c] = [[c]] := words_of_forall (by simp) (by simpa using hc)
    rw [singleSpaced_cons hc, spaced, hwords]
    exact iff_of_true (by simp) singleSpaced_nil
  | c :: d :: rest, h => by
    have hc : isBlank c = false := h.1 c rfl
    cases hd : isBlank d with
    | false =>
      rw [spaced_cons_cons hc hd, singleSpaced_cons hc, List.cons_inj_right]
      exact spaced_eq_self_iff (isTrimmed_of_append [c] h hd)
    | true =>
      -- white space is not the last character, so another one follows it
      obtain ⟨e, tail, rfl⟩ : ∃ e tail, rest = e :: tail := by
        refine List.exists_cons_of_ne_nil ?_
        rintro rfl
        rw [h.2 d rfl] at hd
        cases hd
      have htail : isBlank e = false → (spaced (e :: tail) = e :: tail ↔ SingleSpaced (e :: tail)) :=
        fun he => spaced_eq_self_iff (isTrimmed_of_append [c, d] h he)
      have hwords : words (e :: tail) ≠ [] := fun hnil => by
        obtain ⟨last, hlast⟩ : ∃ last, (e :: tail).getLast? = some last :=
          Option.isSome_iff_exists.1 (by simp)
        have hblank : isBlank last = true :=
          List.all_eq_true.1 (words_eq_nil_iff.1 hnil) last (List.mem_of_getLast? hlast)
        rw [h.2 last hlast] at hblank
        cases hblank
      rw [spaced_cons_blank hc hd hwords, singleSpaced_cons hc, singleSpaced_blank_cons hd,
        List.cons_inj_right, List.cons.injEq]
      constructor
      · rintro ⟨hspace, hspaced⟩
        have he : isBlank e = false := isBlank_of_head?_spaced (by rw [hspaced]; rfl)
        exact ⟨hspace.symm, he, (htail he).1 hspaced⟩
      · rintro ⟨hspace, he, hsingle⟩
        exact ⟨hspace.symm, (htail he).2 hsingle⟩

end Catalog.Text
