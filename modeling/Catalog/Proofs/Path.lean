import Catalog.Proofs.FileTree

/-!
The path above a path. It is the path itself up to its last name, without the slashes and single dots
before that name; these stay where they are, so a way along the path is a way to the path above, and
one name more.
-/

namespace Catalog.Path

/-! ### Trimmed paths -/

theorem trimRight_trimRight (s : List Char) : trimRight (trimRight s) = trimRight s := by
  fun_induction trimRight s with
  | case1 rest ih => exact ih
  | case2 rest ih => exact ih
  | case3 s hslash hdot => rw [trimRight.eq_def]; split <;> simp_all

/-- A reversed path is cut at its first slash into its last segment and the others. -/
theorem segments_reverse {last : List Char} (h : '/' ∉ last) (rest : List Char) :
    segments (String.ofList (last ++ '/' :: rest).reverse)
      = segments (String.ofList rest.reverse) ++ [String.ofList last.reverse] := by
  have hcut : String.ofList (last ++ '/' :: rest).reverse
      = String.ofList rest.reverse ++ "/" ++ String.ofList last.reverse := by
    rw [← String.toList_inj]
    simp
  rw [hcut, segments_append_slash _ _ (by simpa using h)]

/-- A segment that stays where it is. -/
abbrev IsBlank (segment : String) : Prop :=
  segment = "" ∨ segment = "."

/-- What is trimmed off the end of a path are segments that stay where they are. -/
theorem exists_blanks (s : List Char) : ∃ cut blanks, s = cut ++ trimRight s
    ∧ (∀ blank ∈ blanks, IsBlank blank)
    ∧ segments (String.ofList s.reverse)
      = segments (String.ofList (trimRight s).reverse) ++ blanks := by
  unfold trimRight
  split
  · rename_i rest
    obtain ⟨cut, blanks, hs, hblanks, hsegments⟩ := exists_blanks rest
    refine ⟨'/' :: cut, blanks ++ [""], by rw [List.cons_append, ← hs], ?_, ?_⟩
    · exact List.forall_mem_append.2 ⟨hblanks, by simp [IsBlank]⟩
    · rw [← List.append_assoc, ← hsegments]
      exact @segments_reverse [] (by simp) rest
  · rename_i rest
    obtain ⟨cut, blanks, hs, hblanks, hsegments⟩ := exists_blanks rest
    rw [trimRight_slash]
    refine ⟨'.' :: '/' :: cut, blanks ++ ["."], ?_, ?_, ?_⟩
    · rw [List.cons_append, List.cons_append, ← hs]
    · exact List.forall_mem_append.2 ⟨hblanks, by simp [IsBlank]⟩
    · rw [← List.append_assoc, ← hsegments]
      exact @segments_reverse ['.'] (by simp) rest
  · exact ⟨[], [], rfl, by simp, by simp⟩
termination_by s.length

/-- A path without slashes and single dots at its end. -/
abbrev IsTrimmed (path : String) : Prop :=
  trimRight path.toList.reverse = path.toList.reverse

/-- How a path goes on from the path above it: by a name in the current directory, by a name at the
root, or by a name in another directory. -/
inductive Continues (path : String) : String → Prop
  | current (name : String) (relative : isAbsolute path = false) (written : segments path = [name]) :
    Continues path ""
  | root (blanks : List String) (name : String) (absolute : isAbsolute path = true)
      (hblanks : ∀ blank ∈ blanks, IsBlank blank) (written : segments path = blanks ++ [name]) :
    Continues path "/"
  | directory (above : String) (blanks : List String) (name : String) (ne : above ≠ "")
      (trimmed : IsTrimmed above) (shorter : above.length < path.length)
      (size : above.utf8ByteSize ≤ path.utf8ByteSize) (start : isAbsolute above = isAbsolute path)
      (hblanks : ∀ blank ∈ blanks, IsBlank blank)
      (written : segments path = segments above ++ blanks ++ [name]) : Continues path above

/-- The form of a path that stands above another one. -/
abbrev IsAbove (path : String) : Prop :=
  path = "/" ∨ path ≠ "" ∧ IsTrimmed path

theorem Continues.isAbove {path above : String} (h : Continues path above) (hne : above ≠ "") :
    IsAbove above := by
  cases h with
  | current => exact absurd rfl hne
  | root => exact .inl rfl
  | directory _ _ _ ne trimmed => exact .inr ⟨ne, trimmed⟩

theorem Continues.isAbsolute_eq {path above : String} (h : Continues path above)
    (hne : above ≠ "") : isAbsolute above = isAbsolute path := by
  cases h with
  | current => exact absurd rfl hne
  | root _ _ absolute => exact absolute.symm
  | directory _ _ _ _ _ _ _ start => exact start

theorem eq_nil_of_trimRight {s : List Char} (h : trimRight s = []) :
    s = [] ∨ s.getLast? = some '/' := by
  fun_induction trimRight s with
  | case1 rest ih =>
    rcases ih h with rfl | hlast
    · exact .inr rfl
    · exact .inr (by rw [List.getLast?_cons, hlast]; rfl)
  | case2 rest ih =>
    rcases ih h with hnil | hlast
    · cases hnil
    · exact .inr (by rw [List.getLast?_cons, hlast]; rfl)
  | case3 s hslash hdot => exact .inl h

/-- The path above a path is found where the reversed path goes on behind its last name. -/
theorem parent?_of_trimmed {path : String} (hne : path ≠ "") (h : IsTrimmed path) :
    parent? path = match trimRight (path.toList.reverse.dropWhile (· ≠ '/')) with
      | [] => some (if isAbsolute path then "/" else "")
      | rest => some (String.ofList rest.reverse) := by
  unfold parent?
  rw [h]
  split
  · rename_i heq
    exact absurd (by simpa using heq) hne
  · rfl

theorem isAbsolute_append {front : String} (h : front ≠ "") (rest : String) :
    isAbsolute (front ++ rest) = isAbsolute front := by
  rcases hlist : front.toList with _ | ⟨c, tail⟩
  · exact absurd (by simpa using hlist) h
  · simp [isAbsolute, hlist]

/-- Above a path without slashes is the current directory. -/
theorem parent?_of_noSlash {path : String} (hne : path ≠ "") (h : IsTrimmed path)
    (hslash : '/' ∉ path.toList) : parent? path = some "" ∧ Continues path "" := by
  have hrelative : isAbsolute path = false := by
    rw [isAbsolute, decide_eq_false_iff_not]
    exact fun hhead => hslash (List.mem_of_mem_head? hhead)
  have hdrop : path.toList.reverse.dropWhile (· ≠ '/') = [] := by
    rw [List.dropWhile_eq_nil_iff]
    exact Text.forall_mem_ne (by simpa using hslash)
  refine ⟨?_, .current path hrelative (segments_of_noSlash hslash)⟩
  rw [parent?_of_trimmed hne h, hdrop, hrelative]
  rfl

/-- A path with nothing but slashes and dots before its last name stands below the root. -/
theorem isAbsolute_of_trimRight {path : String} {last rest : List Char}
    (hreverse : path.toList.reverse = last ++ '/' :: rest) (h : trimRight rest = []) :
    isAbsolute path = true := by
  rw [isAbsolute, decide_eq_true_eq, ← List.getLast?_reverse, hreverse]
  rcases eq_nil_of_trimRight h with rfl | hslash
  · simp
  · simp [List.getLast?_cons, hslash]

/-- A path that is not empty goes on from the path above it. -/
theorem exists_parent? {path : String} (hne : path ≠ "") (h : IsTrimmed path) :
    ∃ above, parent? path = some above ∧ Continues path above := by
  by_cases hmem : '/' ∈ path.toList
  · obtain ⟨last, rest, hreverse, hlast⟩ :=
      List.eq_append_cons_of_mem (List.mem_reverse.2 hmem)
    obtain ⟨cut, blanks, hrest, hblanks, hsegments⟩ := exists_blanks rest
    have hpath : path = String.ofList (last ++ '/' :: rest).reverse := by
      rw [← hreverse, List.reverse_reverse, String.ofList_toList]
    have hwritten : segments path = segments (String.ofList (trimRight rest).reverse) ++ blanks
        ++ [String.ofList last.reverse] := by
      rw [hpath, segments_reverse hlast, hsegments]
    rw [parent?_of_trimmed hne h, hreverse, Text.dropWhile_ne hlast, trimRight_slash]
    rcases htrim : trimRight rest with _ | ⟨d, front⟩ <;> rw [htrim] at hwritten
    · have habsolute := isAbsolute_of_trimRight hreverse htrim
      rw [habsolute]
      exact ⟨"/", rfl, .root ("" :: blanks) _ habsolute
        (List.forall_mem_cons.2 ⟨.inl rfl, hblanks⟩) hwritten⟩
    · rw [htrim] at hrest
      have habove : String.ofList (d :: front).reverse ≠ "" := by simp
      have hfront : path = String.ofList (d :: front).reverse
          ++ String.ofList (last ++ '/' :: cut).reverse := by
        rw [hpath, hrest, ← String.toList_inj]
        simp
      refine ⟨_, rfl, .directory _ blanks _ habove ?_ ?_ ?_ ?_ hblanks hwritten⟩
      · rw [IsTrimmed, String.toList_ofList, List.reverse_reverse, ← htrim, trimRight_trimRight]
      · rw [hfront, String.length_append, Nat.lt_add_right_iff_pos, String.length_ofList]
        simp
      · rw [hfront, String.utf8ByteSize_append]
        omega
      · rw [hfront, isAbsolute_append habove]
  · exact ⟨"", parent?_of_noSlash hne h hmem⟩

/-- What passes from a path to the path above it holds of all paths above, up to the empty one. -/
theorem forall_mem_ancestorsUpTo {P Q : String → Prop}
    (hstep : ∀ {path above}, Continues path above → above ≠ "" → P path → Q above)
    (hnext : ∀ {path}, Q path → P path) {bound : Nat} {path : String} (hform : IsAbove path)
    (h : P path) : ∀ above ∈ ancestorsUpTo bound path, above ≠ "" → Q above := by
  induction bound generalizing path with
  | zero => exact fun above hmem => absurd hmem List.not_mem_nil
  | succ bound ih =>
    intro above hmem hne
    rw [ancestorsUpTo] at hmem
    rcases hform with rfl | ⟨hpath, htrimmed⟩
    · cases hmem
    · obtain ⟨next, hparent, hcontinues⟩ := exists_parent? hpath htrimmed
      rw [hparent] at hmem
      rcases List.mem_cons.1 hmem with rfl | hmem
      · exact hstep hcontinues hne h
      · have hnonempty : next ≠ "" := by
          rintro rfl
          cases bound <;> cases hmem
        exact ih (hcontinues.isAbove hnonempty) (hnext (hstep hcontinues hnonempty h)) above hmem hne

/-- The paths above a path start where it does. -/
theorem isAbsolute_of_mem_ancestorsUpTo {bound : Nat} {path above : String} (h : IsAbove path)
    (hmem : above ∈ ancestorsUpTo bound path) (hne : above ≠ "") :
    isAbsolute above = isAbsolute path :=
  forall_mem_ancestorsUpTo (P := fun other => isAbsolute other = isAbsolute path)
    (fun hcontinues hne hsame => (hcontinues.isAbsolute_eq hne).trans hsame) id h rfl above hmem hne

end Catalog.Path
